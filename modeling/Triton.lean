import Triton.Core.Revoked
import Triton.Core.Controls
import Triton.Core.RateWindow
import Triton.Core.TenantBuckets
import Triton.Core.RejectionWindow
import Triton.Core.Metrics
import Triton.Correlation.Lifetime
import Triton.Correlation.RingVerdict
import Triton.Correlation.Template
import Triton.A2ui.GeClick
import Triton.A2ui.WidgetFill
import Triton.Routing.Bindings
import Triton.Tasks.Contacts
import Triton.Tasks.Writers
import Triton.Identity.HdCache
import Triton.Identity.GoogleExpiry
import Triton.Identity.Jwks
import Triton.Http.Identity
import Triton.Http.Mcp
import Triton.Http.McpTenants
import Triton.Http.AuditReads
import Triton.Http.ListTasks
import Triton.Http.ToldOnce
import Triton.Upstream.Endpoint
import Triton.Upstream.BreakerSafety
import Triton.Upstream.Envelope
import Triton.Upstream.SseRelay
import Triton.Telegram.FormFilling
import Triton.Telegram.FormPrompts
import Triton.Telegram.Display
import Triton.Discord.Resume
import Triton.Discord.Heartbeat
import Triton.Discord.Replies
import Triton.Signal.WriterSlot
import Triton.Whatsapp.SurfaceMapper
import Triton.Email.SurfaceMapper
import Triton.Chat.SealedReference
import Triton.Chat.AgentChooser
import Triton.Chat.MdCard
import Triton.Chat.TemplateForms
import Triton.Chat.WorkingCard
