/-
# The authority of a URL

What a WHATWG URL parser takes as the authority of a URL with a special scheme,
and the host and port it reads out of it. For these schemes a backslash counts
as a slash. The host parser proper (percent decoding, IDNA, address literals)
is cut down to what it can tell from single characters, so every host it accepts
is accepted here with the same text.
-/

import Triton.Lib.Text

namespace Triton.Lib.Url

open Text

/-- The special schemes but for `file`, which has no port. -/
def specialSchemes : List String := ["ftp", "http", "https", "ws", "wss"]

def isC0OrSpace (c : Char) : Bool := c.toNat ≤ 0x20

def isTabOrNewline (c : Char) : Bool := c == '\t' || c == '\n' || c == '\r'

/-- The parser first strips control characters and blanks at both ends, then
removes every tab and newline. -/
def clean (input : List Char) : List Char :=
  ((input.dropWhile isC0OrSpace).rdropWhile isC0OrSpace).filter (!isTabOrNewline ·)

def isSlash (c : Char) : Bool := c == '/' || c == '\\'

def endsAuthority (c : Char) : Bool := c == '/' || c == '\\' || c == '?' || c == '#'

/-- What follows the colon of a special scheme: slashes are skipped, however
many there are; the authority runs up to its first terminator, and the userinfo
up to the last `@` in it. -/
def authorityOf (rest : List Char) : List Char :=
  ((rest.dropWhile isSlash).takeWhile (!endsAuthority ·)).rtakeWhile (· != '@')

/-- The authority without userinfo. -/
def authority (url : String) : Option String :=
  (splitOnce ':' (String.ofList (clean url.toList))).bind fun (scheme, rest) =>
    if toAsciiLowercase scheme ∈ specialSchemes then some (String.ofList (authorityOf rest.toList))
    else none

/-! ## Host and port -/

/-- Cut the authority at the first colon that is not between brackets. -/
def scanHost : (inBrackets : Bool) → List Char → List Char × Option (List Char)
  | _, [] => ([], none)
  | inBrackets, c :: rest =>
    if c == ':' && !inBrackets then ([], some rest)
    else
      let (host, port) := scanHost (if c == '[' then true else c != ']' && inBrackets) rest
      (c :: host, port)

/-- The digits, colons and dots an IPv6 literal is made of. -/
def isIpv6Char (c : Char) : Bool :=
  c.isDigit || ('a' ≤ c && c ≤ 'f') || ('A' ≤ c && c ≤ 'F') || c == ':' || c == '.'

/-- The forbidden host code points. -/
def isForbiddenHost (c : Char) : Bool :=
  ['\x00', '\t', '\n', '\r', ' ', '#', '/', ':', '<', '>', '?', '@', '[', '\\', ']', '^',
    '|'].contains c

/-- The text of the host: a literal between brackets, or a domain or IPv4
address without them. -/
def hostText (host : List Char) : Option (List Char) :=
  match host with
  | '[' :: rest =>
    if rest.getLast? = some ']' && rest.dropLast.all isIpv6Char then some rest.dropLast else none
  | other => if other.isEmpty || other.any isForbiddenHost then none else some other

/-- The port is a run of digits, possibly an empty one. -/
def isPort (port : List Char) : Bool :=
  port.all Char.isDigit && (port.isEmpty || ((parseDigits port).any (· ≤ 65535)))

/-- The host the authority names, when the parser accepts it. -/
def host (authority : String) : Option String :=
  let scanned := scanHost false authority.toList
  if scanned.2.all isPort then (hostText scanned.1).map String.ofList else none

/-! ## Texts that are their own authority -/

theorem not_mem_authorityOf {c : Char} (ends : endsAuthority c = true) (rest : List Char) :
    c ∉ authorityOf rest := by
  intro found
  have kept := (List.rtakeWhile_suffix _ _).subset found
  have := List.mem_takeWhile_imp kept
  simp [ends] at this

/-- Between two slashes and one, a text without terminator and `@` is read as it
is. -/
theorem authorityOf_self {text : List Char} (whole : ∀ c ∈ text, endsAuthority c = false)
    (bare : '@' ∉ text) : authorityOf ('/' :: '/' :: (text ++ ['/'])) = text := by
  have skipped : ('/' :: '/' :: (text ++ ['/'])).dropWhile isSlash =
      (text ++ ['/']).dropWhile isSlash := by
    simp [isSlash, List.dropWhile]
  have taken : ((text ++ ['/']).dropWhile isSlash).takeWhile (!endsAuthority ·) = text := by
    cases text with
    | nil => simp [isSlash, List.dropWhile]
    | cons first more =>
      have notSlash : isSlash first = false := by
        have := whole first (by simp)
        simp only [endsAuthority, Bool.or_eq_false_iff] at this
        simp [isSlash, this]
      rw [List.cons_append, List.dropWhile_cons_of_neg (by simp [notSlash]), ← List.cons_append,
        List.takeWhile_append_of_pos (fun c member => by simp [whole c member])]
      simp [endsAuthority, List.takeWhile]
  rw [authorityOf, skipped, taken, List.rtakeWhile_eq_self_iff]
  intro c member
  simp only [bne_iff_ne, ne_eq]
  rintro rfl
  exact bare member

theorem clean_eq_self {first last : Char} {middle : List Char}
    (front : isC0OrSpace first = false) (back : isC0OrSpace last = false)
    (unbroken : ∀ c ∈ first :: (middle ++ [last]), isTabOrNewline c = false) :
    clean (first :: (middle ++ [last])) = first :: (middle ++ [last]) := by
  rw [clean, List.dropWhile_cons_of_neg (by simp [front]), ← List.cons_append,
    List.rdropWhile_concat_neg _ _ _ (by simp [back]), List.filter_eq_self]
  intro c member
  rw [unbroken c (by simpa using member), Bool.not_false]

/-- The parser of a URL that starts with `http:` and ends with a slash gets to
the authority with the text as it is. -/
theorem authority_http {middle : List Char} (unbroken : ∀ c ∈ middle, isTabOrNewline c = false) :
    authority (String.ofList ("http:".toList ++ (middle ++ ['/']))) =
      some (String.ofList (authorityOf (middle ++ ['/']))) := by
  have kept : clean ("http:".toList ++ (middle ++ ['/'])) =
      "http:".toList ++ (middle ++ ['/']) := by
    refine @clean_eq_self 'h' '/' ("ttp:".toList ++ middle) (by decide) (by decide) ?_
    intro c member
    have cases : c ∈ "http:/".toList ∨ c ∈ middle := by
      simp at member ⊢
      tauto
    rcases cases with fixed | inside
    · have all : "http:/".toList.all (!isTabOrNewline ·) = true := by decide
      simpa using List.all_eq_true.mp all c fixed
    · exact unbroken c inside
  rw [authority, String.toList_ofList, kept]
  simp [splitOnce, List.takeWhile, List.dropWhile, toAsciiLowercase, specialSchemes]

/-! ## Where the host ends -/

/-- The scan only cuts the authority in two. -/
theorem scanHost_eq (inBrackets : Bool) (text : List Char) :
    text = (scanHost inBrackets text).1 ++
      ((scanHost inBrackets text).2.map (':' :: ·)).getD [] := by
  induction text generalizing inBrackets with
  | nil => rfl
  | cons c rest ih =>
    rw [scanHost]
    split
    · rename_i colon
      simp at colon
      simp [colon.1]
    · exact congrArg (c :: ·) (ih _)

theorem hostText_cases {bracketed text : List Char} (read : hostText bracketed = some text) :
    (bracketed = '[' :: (text ++ [']']) ∧ ∀ c ∈ text, isIpv6Char c = true) ∨
      (bracketed = text ∧ ∀ c ∈ text, isForbiddenHost c = false) := by
  unfold hostText at read
  split at read
  · rename_i rest
    split at read
    · rename_i closed
      simp only [Bool.and_eq_true, decide_eq_true_eq, List.all_eq_true] at closed
      cases read
      exact .inl ⟨by rw [List.dropLast_append_getLast? _ closed.1], closed.2⟩
    · cases read
  · split at read
    · cases read
    · rename_i plain
      cases read
      simp only [Bool.or_eq_true, not_or, List.any_eq_true, not_exists, not_and,
        Bool.not_eq_true] at plain
      exact .inr ⟨rfl, plain.2⟩

/-- The host is read off the whole authority, or off what comes before a colon
and a port. -/
theorem host_cases {authority host : String} (named : Url.host authority = some host) :
    ∃ bracketed, hostText bracketed = some host.toList ∧
      (authority = String.ofList bracketed ∨
        ∃ port, ':' ∉ port ∧ authority = String.ofList (bracketed ++ ':' :: port)) := by
  simp only [Url.host] at named
  have cut := scanHost_eq false authority.toList
  generalize scanHost false authority.toList = scanned at named cut
  obtain ⟨bracketed, port⟩ := scanned
  split at named
  · rename_i digits
    obtain ⟨text, read, rfl⟩ := Option.map_eq_some_iff.mp named
    refine ⟨bracketed, by rw [read, String.toList_ofList], ?_⟩
    cases port with
    | none =>
      left
      apply String.toList_injective
      simpa using cut
    | some port =>
      right
      refine ⟨port, fun colon => ?_, ?_⟩
      · simp only [Option.all_some, isPort, Bool.and_eq_true, List.all_eq_true] at digits
        have := digits.1 _ colon
        cases this
      · apply String.toList_injective
        simpa using cut
  · cases named

end Triton.Lib.Url
