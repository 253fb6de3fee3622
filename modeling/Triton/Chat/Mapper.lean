/-
# What the surface mappers share

Every chat crate turns surfaces into its platform's messages by a mapper of its own. The
mappers take the same things from libraries, hand a dashboard on in the same form, and
fail in the same way.
-/

import Triton.A2ui.Extract
import Triton.Correlation.Token

namespace Triton.Chat

open Triton.Lib Triton.A2ui Triton.Correlation

/-- What a mapper takes from libraries: the reader of surfaces with the link rule, the
keyed hash and the JSON form of a token's body. -/
structure Libraries where
  codec : Codec
  hmac : Bytes → Bytes → Vector UInt8 32
  bodies : BodyCodec

/-- The kinds of text that can be cut and rendered again. -/
inductive RawKind where
  | text
  | narration
  deriving DecidableEq, Repr

structure RasterDashboard where
  title : String
  tiles : List DashboardTile

inductive RenderError where
  | emptyAfterRender
  deriving DecidableEq, Repr

/-- Libraries that read surfaces and sign nothing. -/
def readingEnv : Libraries where
  codec := httpsCodec
  hmac := fun _ _ => Vector.replicate 32 0
  bodies := ⟨fun _ => .error "", fun _ => .error ""⟩

end Triton.Chat
