/-
# Which endpoints may be dialled

The guard on a configured `host:port` endpoint, and the URL the request is sent
to. The guard reads the text by its own rules, the HTTP client by those of a URL
parser, so the host that was checked is the host that is dialled only as far as
both take the same authority from the text.
-/

import Triton.Lib.IpAddr
import Triton.Lib.Url

namespace Triton.Upstream

open Triton.Lib Text

/-! ## The guard -/

/-- The host without the brackets around an IPv6 literal; any number of them
goes. -/
def unbracket (host : String) : String := trimEndMatches ']' (trimStartMatches '[' host)

/-- A host name is trusted under one of the suffixes, matched at a label
boundary. -/
def nameIsAllowed (host : String) (allowedSuffixes : List String) : Bool :=
  let h := toAsciiLowercase (trimEndMatches '.' host)
  allowedSuffixes.any fun suffix =>
    let suffix := toAsciiLowercase suffix
    let dotted := if startsWith suffix "." then suffix else "." ++ suffix
    endsWith h dotted

/-- Loopback, private, or 100.64.0.0/10. -/
def v4IsAllowed (v4 : IpAddr.V4) : Bool :=
  v4.isLoopback || v4.isPrivate || (v4.a.val == 100 && 64 ≤ v4.b.val && v4.b.val ≤ 127)

/-- Loopback or unique-local. -/
def v6IsAllowed (v6 : IpAddr.V6) : Bool :=
  v6.isLoopback || v6.firstOctet &&& 0xfe == 0xfc

def hostIsAllowed (host : String) (allowedSuffixes : List String) : Bool :=
  match IpAddr.parse host with
  | none => nameIsAllowed host allowedSuffixes
  | some (.v4 v4) => v4IsAllowed v4
  | some (.v6 v6) => v6IsAllowed v6

def endpointIsDispatchable (endpoint : String) (allowedSuffixes : List String) : Bool :=
  if endpoint.toList.any (['@', '/', '?', '#'].contains ·) ||
      endpoint.toList.any isAsciiWhitespace then false
  else
    match rsplitOnce ':' endpoint with
    | none => false
    | some (host, port) =>
      match parseUnsigned 65535 port with
      | none | some 0 => false
      | some _ => hostIsAllowed (unbracket host) allowedSuffixes

/-- The host the rules look at. -/
def checkedHost (endpoint : String) : Option String :=
  (rsplitOnce ':' endpoint).map fun (host, _) => unbracket host

/-- Where a request goes. -/
def requestUrl (endpoint : String) : String := "http://" ++ endpoint ++ "/"

/-! ## What an accepted endpoint looks like -/

section Accepted

/-- A literal the URL parser accepts loses exactly the brackets around it. -/
theorem unbracket_of_hostText {bracketed text : List Char}
    (read : Url.hostText bracketed = some text) :
    unbracket (String.ofList bracketed) = String.ofList text := by
  simp only [unbracket, trimStartMatches, trimEndMatches, String.toList_ofList]
  rcases Url.hostText_cases read with ⟨rfl, digits⟩ | ⟨rfl, plain⟩
  · have opening : '[' ∉ text ++ [']'] := by
      intro member
      rcases List.mem_append.mp member with inside | outside
      · cases digits _ inside
      · simp at outside
    have closing : ']' ∉ text := fun member => by cases digits _ member
    rw [List.dropWhile_cons_of_pos (by decide), dropWhile_of_notMem opening,
      List.rdropWhile_concat_pos _ _ _ (by decide), rdropWhile_of_notMem closing]
  · have opening : '[' ∉ bracketed := fun member => by cases plain _ member
    have closing : ']' ∉ bracketed := fun member => by cases plain _ member
    rw [dropWhile_of_notMem opening, rdropWhile_of_notMem closing]

variable {endpoint : String} {allowedSuffixes : List String}
  (accepted : endpointIsDispatchable endpoint allowedSuffixes = true)

include accepted

theorem plain_of_dispatchable {c : Char} (member : c ∈ endpoint.toList) :
    c ∉ ['@', '/', '?', '#'] ∧ isAsciiWhitespace c = false := by
  rw [endpointIsDispatchable] at accepted
  split at accepted
  · cases accepted
  · rename_i plain
    simp only [Bool.or_eq_true, List.any_eq_true, not_or, not_exists, not_and] at plain
    refine ⟨fun special => plain.1 c member (by simpa using special), ?_⟩
    simpa using plain.2 c member

/-- The part after the last colon is a port number. -/
theorem port_of_dispatchable :
    ∃ host port n, rsplitOnce ':' endpoint = some (host, port) ∧
      parseUnsigned 65535 port = some n := by
  rw [endpointIsDispatchable] at accepted
  split at accepted
  · cases accepted
  · split at accepted
    · cases accepted
    · rename_i host port cut
      cases parsed : parseUnsigned 65535 port with
      | none => simp [parsed] at accepted
      | some n => exact ⟨host, port, n, cut, parsed⟩

/-! ## The host that is dialled -/

theorem authority_requestUrl :
    Url.authority (requestUrl endpoint) =
      some (String.ofList (Url.authorityOf ('/' :: '/' :: (endpoint.toList ++ ['/'])))) := by
  have text : requestUrl endpoint =
      String.ofList ("http:".toList ++ ('/' :: '/' :: endpoint.toList ++ ['/'])) := by
    apply String.toList_injective
    simp [requestUrl]
  rw [text]
  apply Url.authority_http
  intro c member
  rcases List.mem_cons.mp member with rfl | member
  · decide
  rcases List.mem_cons.mp member with rfl | inside
  · decide
  · have blank := (plain_of_dispatchable accepted inside).2
    by_contra broken
    simp only [Url.isTabOrNewline, Bool.not_eq_false, Bool.or_eq_true, beq_iff_eq] at broken
    rcases broken with (rfl | rfl) | rfl <;> cases blank

/-- The parser takes the whole endpoint as the authority unless there is a
backslash in it, the one terminator the guard does not refuse. -/
theorem authority_eq_endpoint_iff :
    Url.authority (requestUrl endpoint) = some endpoint ↔ '\\' ∉ endpoint.toList := by
  rw [authority_requestUrl accepted, Option.some_inj]
  constructor
  · intro same
    rw [← same, String.toList_ofList]
    exact Url.not_mem_authorityOf (by decide) _
  · intro absent
    have plain := fun c member => (plain_of_dispatchable accepted (c := c) member).1
    have whole : ∀ c ∈ endpoint.toList, Url.endsAuthority c = false := by
      intro c member
      by_contra ends
      simp only [Url.endsAuthority, Bool.not_eq_false, Bool.or_eq_true, beq_iff_eq] at ends
      rcases ends with ((rfl | rfl) | rfl) | rfl
      · exact plain _ member (by decide)
      · exact absent member
      · exact plain _ member (by decide)
      · exact plain _ member (by decide)
    rw [Url.authorityOf_self whole (fun member => plain _ member (by decide)),
      String.ofList_toList]

/-- The authority of an accepted endpoint is not a host alone: a literal would
swallow the port. -/
theorem hostText_endpoint : Url.hostText endpoint.toList = none := by
  obtain ⟨host, port, n, cut, parsed⟩ := port_of_dispatchable accepted
  obtain ⟨d, last, digit⟩ := getLast_of_parseUnsigned parsed
  have text : endpoint.toList = host.toList ++ ':' :: port.toList := toList_of_rsplitOnce cut
  rw [Option.eq_none_iff_forall_not_mem]
  intro literal read
  rcases Url.hostText_cases read with ⟨closed, _⟩ | ⟨whole, plain⟩
  · have ends : endpoint.toList.getLast? = some d := by
      rw [text, List.getLast?_append, List.getLast?_cons, last]
      rfl
    rw [closed, ← List.cons_append, List.getLast?_concat] at ends
    cases ends
    cases digit
  · have colon : ':' ∈ literal := by
      rw [← whole, text]
      simp
    cases plain _ colon

/-- Whatever host the URL parser finds in an accepted endpoint is the one the
guard looked at. -/
theorem checkedHost_eq_host {host : String} (named : Url.host endpoint = some host) :
    checkedHost endpoint = some host := by
  obtain ⟨bracketed, read, whole | ⟨port, last, cut⟩⟩ := Url.host_cases named
  · have same : endpoint.toList = bracketed := by rw [whole, String.toList_ofList]
    rw [← same, hostText_endpoint accepted] at read
    cases read
  · simp only [checkedHost, cut, rsplitOnce_ofList last, Option.map_some]
    rw [unbracket_of_hostText read, String.ofList_toList]

end Accepted

/-- The request goes to the endpoint as the guard has read it: its authority is
the endpoint, and the host the client finds in there is the checked one. -/
structure DialsCheckedHost (endpoint : String) : Prop where
  authority : Url.authority (requestUrl endpoint) = some endpoint
  host : ∀ host, Url.host endpoint = some host → checkedHost endpoint = some host

/-- An accepted endpoint is dialled as checked exactly when it has no backslash
in it. -/
theorem dialsCheckedHost_iff (endpoint : String) (allowedSuffixes : List String)
    (accepted : endpointIsDispatchable endpoint allowedSuffixes = true) :
    DialsCheckedHost endpoint ↔ containsChar endpoint '\\' = false := by
  have absent_iff : containsChar endpoint '\\' = false ↔ '\\' ∉ endpoint.toList := by
    simp [containsChar]
  rw [absent_iff, ← authority_eq_endpoint_iff accepted]
  exact ⟨DialsCheckedHost.authority, fun same => ⟨same, fun _ => checkedHost_eq_host accepted⟩⟩

theorem tailnet_dialsCheckedHost_iff :
    endpointIsDispatchable "Carl.DZ.TS.NET.:8001" [".ts.net"] = true ∧
      (DialsCheckedHost "Carl.DZ.TS.NET.:8001" ↔
        containsChar "Carl.DZ.TS.NET.:8001" '\\' = false) := by
  have accepted : endpointIsDispatchable "Carl.DZ.TS.NET.:8001" [".ts.net"] = true := by decide
  exact ⟨accepted, dialsCheckedHost_iff "Carl.DZ.TS.NET.:8001" [".ts.net"] accepted⟩

/-- The suffix rule sees a tailnet name, the client dials the address before the
backslash. -/
theorem metadata_behind_backslash_dialled :
    endpointIsDispatchable "169.254.169.254\\.ts.net:80" [".ts.net"] = true ∧
      Url.authority (requestUrl "169.254.169.254\\.ts.net:80") = some "169.254.169.254" ∧
      ¬ DialsCheckedHost "169.254.169.254\\.ts.net:80" := by
  have dialled : Url.authority (requestUrl "169.254.169.254\\.ts.net:80") =
      some "169.254.169.254" := by decide
  refine ⟨by decide, dialled, fun checked => ?_⟩
  have same := checked.authority
  rw [dialled] at same
  revert same
  decide

end Triton.Upstream
