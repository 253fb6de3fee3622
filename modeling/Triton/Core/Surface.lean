/-
# Where a turn is rendered

What a channel can show, the registry of channels, and the context a dispatch
carries beside the identity. All of it is presentation advice: no field of it
takes part in an authorization decision.
-/

import Triton.Lib.Json
import Triton.Lib.Table
import Triton.Lib.Text

namespace Triton.Core

open Triton.Lib

inductive Markdown where
  | none
  | basic
  | full
  deriving DecidableEq, Repr

inductive Tables where
  | text
  | native
  deriving DecidableEq, Repr

inductive Charts where
  | none
  | caption
  | image
  | native
  deriving DecidableEq, Repr

structure ButtonSupport where
  supported : Bool
  max : Option Nat
  deriving DecidableEq, Repr

/-- The wire form of a channel's profile. -/
structure SurfaceDescriptor where
  v : UInt32
  channel : String
  markdown : Markdown
  tables : Tables
  buttons : ButtonSupport
  charts : Charts
  images : Bool
  maxTextBytes : Option Nat
  streaming : Bool
  subjectLine : Bool
  guidance : String
  deriving DecidableEq, Repr

namespace SurfaceDescriptor

private def textOfMarkdown : Markdown → String
  | .none => "none"
  | .basic => "basic"
  | .full => "full"

private def textOfTables : Tables → String
  | .text => "text"
  | .native => "native"

private def textOfCharts : Charts → String
  | .none => "none"
  | .caption => "caption"
  | .image => "image"
  | .native => "native"

private def ofOption : Option Nat → Value
  | some n => .number (.posInt n)
  | none => .null

/-- The descriptor as a JSON object, its members in key order. -/
def toValue (s : SurfaceDescriptor) : Value :=
  .object
    [("buttons", .object [("max", ofOption s.buttons.max),
      ("supported", .bool s.buttons.supported)]),
      ("channel", .string s.channel),
      ("charts", .string (textOfCharts s.charts)),
      ("guidance", .string s.guidance),
      ("images", .bool s.images),
      ("markdown", .string (textOfMarkdown s.markdown)),
      ("max_text_bytes", ofOption s.maxTextBytes),
      ("streaming", .bool s.streaming),
      ("subject_line", .bool s.subjectLine),
      ("tables", .string (textOfTables s.tables)),
      ("v", .number (.posInt s.v.toNat))]

end SurfaceDescriptor

/-- Channel name to descriptor. -/
abbrev SurfaceRegistry := Table String SurfaceDescriptor

/-- What the upstream router may tell an agent about where its answer goes. -/
structure DispatchContext where
  channel : String
  surface : Option SurfaceDescriptor
  deriving DecidableEq, Repr

/-- The channel name agents see, from an adapter's audit label. A messenger
label names its adapter after the first colon and a role after the second. -/
def channelForProtocol (protocol : String) : String :=
  let adapter :=
    match Text.stripHead protocol "messenger:" with
    | some rest => (Text.split ':' rest).headD rest
    | none => protocol
  if adapter = "google_chat" then "googlechat" else adapter

def DispatchContext.forProtocol (protocol : String) (surfaces : SurfaceRegistry) :
    DispatchContext :=
  let channel := channelForProtocol protocol
  ⟨channel, surfaces.lookup channel⟩

/-- What an adapter adds to the context the dispatcher derives on its own. -/
structure ContextOverrides where
  tritonMeta : Members := []
  surface : Option SurfaceDescriptor := none
  clientFiles : Option (List Value) := none

/-- The key of the arguments that belongs to the gateway. -/
def reservedArgsKey : String := "_triton"

/-- Drop a caller-supplied reserved member. -/
def stripReserved : Value → Value
  | .object members => .object (Members.remove reservedArgsKey members)
  | other => other

/-- The metadata of the turn with its client files beside the client's events.
A `client` member that is no object keeps the files out. -/
def metaWithFiles (members : Members) (files : List Value) : Members :=
  match (Members.get members "client").getD (.object []) with
  | .object client =>
    Members.insert "client" (.object (Members.insert "files" (.array files) client)) members
  | _ => members

/-- The arguments as every tool sees them: the caller's reserved member dropped,
then the adapter's metadata, if any, written in its place. -/
def prepareArgs (args : Value) (overrides : ContextOverrides) : Value :=
  let files := overrides.clientFiles.filter (!·.isEmpty)
  match stripReserved args with
  | .object members =>
    if overrides.tritonMeta.isEmpty && files.isNone then .object members
    else
      let turnMeta :=
        match files with
        | some files => metaWithFiles overrides.tritonMeta files
        | none => overrides.tritonMeta
      .object (Members.insert reservedArgsKey (.object turnMeta) members)
  | other => other

/-- Write the channel's descriptor under the reserved member of object arguments.
A reserved member that is no object keeps it out. -/
def surfaceHint (args : Value) (ctx : DispatchContext) : Value :=
  match ctx.surface, args with
  | some surface, .object members =>
    match (Members.get members reservedArgsKey).getD (.object []) with
    | .object reserved =>
      .object (Members.insert reservedArgsKey
        (.object (Members.insert "surface" surface.toValue reserved)) members)
    | _ => .object members
  | _, _ => args

end Triton.Core
