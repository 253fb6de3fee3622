/-
# Markdown as HTML

A text component is written in a small Markdown and mailed as HTML. Each line is a
heading, a bullet or a part of a paragraph. Inside a line the text is escaped first;
then links become anchors, and pairs of asterisks, underscores and backticks become
tags, one pass after the other. The later passes work on the output of the earlier ones
and know nothing of tags: they also replace marks inside the address of a link. A link
keeps the scheme it was accepted for, since no scheme holds a mark.
-/

import Triton.Lib.Html

namespace Triton.Email

open Triton.Lib Triton.Lib.Html

/-! ## Addresses -/

def allowedSchemes : List String := ["http://", "https://", "mailto:", "ui://"]

def hasAllowedScheme (address : String) : Bool :=
  let lower := Text.toAsciiLowercase (Text.trim address)
  allowedSchemes.any fun scheme => Text.startsWith lower scheme

/-- What an `href` may hold: the place holder, or an address with an allowed scheme. -/
def allowedHref (value : List Char) : Bool :=
  value == ['#'] || hasAllowedScheme (String.ofList (unescape value))

def quoteEntity (x : Char × Bool) : Marked := if x.1 = '"' then Marked.produced "&quot;" else [x]

/-- The address of a link in escaped text. -/
def sanitizeHref (escapedUrl : Marked) : Marked :=
  if hasAllowedScheme escapedUrl.plain then escapedUrl.flatMap quoteEntity else Marked.own "#"

/-! ## Inside a line -/

/-- The text and the address of a link that begins here. -/
def linkAt : Marked → Option (Marked × Marked)
  | ('[', _) :: rest =>
    let text := rest.takeWhile (·.1 ≠ ']')
    match rest.drop text.length with
    | (']', _) :: ('(', _) :: more =>
      let url := more.takeWhile fun x => x.1 ≠ ')' && !Text.isWhitespace x.1
      let closed := ((more.drop url.length).head?.map Prod.fst) == some ')'
      if !text.isEmpty && !url.isEmpty && closed then some (text, url) else none
    | _ => none
  | _ => none

/-- Links become anchors. So many characters are part of what was replaced. -/
def linked : ℕ → Marked → Marked
  | _, [] => []
  | skip + 1, _ :: rest => linked skip rest
  | 0, x :: rest =>
    match linkAt (x :: rest) with
    | some (text, url) =>
      anchorStart ++ (sanitizeHref url ++ (Marked.own "\">" ++ (text ++ (Marked.own "</a>" ++
        linked (text.length + url.length + 3) rest))))
    | none => x :: linked 0 rest

/-- Marks in a row around a text, and what they become. -/
structure Rule where
  mark : Char
  width : ℕ
  opening : String
  closing : String

def boldStar : Rule := ⟨'*', 2, "<strong>", "</strong>"⟩

def boldUnder : Rule := ⟨'_', 2, "<strong>", "</strong>"⟩

def code : Rule := ⟨'`', 1, "<code>", "</code>"⟩

namespace Rule

def delimiter (r : Rule) : List Char := List.replicate r.width r.mark

/-- What stands between the marks when a pair of them begins here. -/
def spanAt (r : Rule) (m : Marked) : Option Marked :=
  let inside := (m.drop r.width).takeWhile fun x => x.1 ≠ r.mark && x.1 ≠ '\n'
  if r.delimiter.isPrefixOf (m.map Prod.fst) && !inside.isEmpty &&
    r.delimiter.isPrefixOf ((m.drop (r.width + inside.length)).map Prod.fst)
  then some inside else none

end Rule

/-- Every span that one of the rules finds, the first rule first. -/
def replaceSpans (rules : List Rule) : ℕ → Marked → Marked
  | _, [] => []
  | skip + 1, _ :: rest => replaceSpans rules skip rest
  | 0, x :: rest =>
    match rules.findSome? fun r => (r.spanAt (x :: rest)).map (r, ·) with
    | some (r, inside) =>
      -- `x` is the first character of the span, so one less is left to skip.
      Marked.own r.opening ++ (inside ++ (Marked.own r.closing ++
        replaceSpans rules (2 * r.width + inside.length - 1) rest))
    | none => x :: replaceSpans rules 0 rest

def inlineMd (s : String) : Marked :=
  let linked := linked 0 (escapeHtml s)
  let bold := replaceSpans [boldStar] 0 linked
  let bold := replaceSpans [boldUnder] 0 bold
  replaceSpans [code] 0 bold

/-! ## Lines -/

/-- What follows the marks of a heading. -/
def headerRest (line : List Char) : Option (List Char) :=
  let indented := line.dropWhile Text.isWhitespace
  let indent := line.length - indented.length
  let hashes := (indented.takeWhile (· = '#')).length
  let rest := indented.drop hashes
  if indent ≤ 3 ∧ 1 ≤ hashes ∧ hashes ≤ 6 ∧ (rest.head?.any Text.isWhitespace) then
    some (rest.dropWhile Text.isWhitespace)
  else none

def headerOf (line : String) : Option String :=
  (headerRest line.toList).map fun rest => Text.trimEnd (String.ofList rest)

def bulletOf (line : String) : Option String :=
  match line.toList.dropWhile Text.isWhitespace with
  | bullet :: rest =>
    if (bullet = '-' ∨ bullet = '*') ∧ rest.head?.any Text.isWhitespace then
      some (String.ofList (rest.dropWhile Text.isWhitespace))
    else none
  | [] => none

def wrap (before : String) (m : Marked) (after : String) : Marked :=
  Marked.own before ++ (m ++ Marked.own after)

/-- Lines of a paragraph. -/
def breakLines : List Marked → Marked
  | [] => []
  | line :: rest => line ++ rest.flatMap (Marked.own "<br>" ++ ·)

/-- What has been written, and the paragraph or the list that is still open. -/
structure Draft where
  out : Marked := []
  para : List Marked := []
  list : List Marked := []

namespace Draft

def flushPara (d : Draft) : Draft :=
  if d.para.isEmpty then d
  else { d with out := d.out ++ wrap "<p>" (breakLines d.para) "</p>", para := [] }

def flushList (d : Draft) : Draft :=
  if d.list.isEmpty then d
  else { d with out := d.out ++ wrap "<ul>" d.list.flatten "</ul>", list := [] }

def addLine (d : Draft) (raw : String) : Draft :=
  if (Text.trim raw).isEmpty then d.flushPara.flushList
  else
    match headerOf raw with
    | some title =>
      let done := d.flushPara.flushList
      { done with out := done.out ++ wrap "<h3>" (inlineMd title) "</h3>" }
    | none =>
      match bulletOf raw with
      | some item =>
        let kept := d.flushPara
        { kept with list := kept.list ++ [wrap "<li>" (inlineMd item) "</li>"] }
      | none =>
        let kept := d.flushList
        { kept with para := kept.para ++ [inlineMd raw] }

end Draft

def mdToHtml (md : String) : Marked :=
  (((Text.lines md).foldl Draft.addLine {}).flushPara.flushList).out

/-- A text without the marks of headings and of bold type. -/
def stripMarkdown (s : String) : String :=
  let rest := (headerRest s.toList).getD s.toList
  (replaceSpans [⟨'*', 2, "", ""⟩, ⟨'_', 2, "", ""⟩] 0 (rest.map (·, true))).plain

/-! ## Allowed schemes -/

/-- The place holder, or an address that begins with an allowed scheme. -/
def Schemed (value : List Char) : Prop :=
  value = ['#'] ∨
    ∃ head tail, value = head ++ tail ∧ String.ofList (head.map Char.toLower) ∈ allowedSchemes

variable {head : List Char} {m : Marked}

/-- A character that lower case leaves alone and that no scheme holds. -/
theorem notMem_of_scheme {d : Char}
    (scheme : String.ofList (head.map Char.toLower) ∈ allowedSchemes) (fixed : d.toLower = d)
    (absent : ∀ s ∈ allowedSchemes, d ∉ s.toList) : d ∉ head := by
  intro member
  refine absent _ scheme ?_
  rw [String.toList_ofList]
  exact List.mem_map.mpr ⟨d, member, fixed⟩

theorem solid_of_scheme (scheme : String.ofList (head.map Char.toLower) ∈ allowedSchemes) :
    ∀ c ∈ head, Text.isWhitespace c = false := by
  have solid : ∀ s ∈ allowedSchemes, (s.toList.any Text.isWhitespace) = false := by decide
  intro c member
  rw [← Text.isWhitespace_toLower]
  refine Bool.eq_false_iff.mpr (List.any_eq_false.mp (solid _ scheme) _ ?_)
  rw [String.toList_ofList]
  exact List.mem_map_of_mem member

theorem ne_nil_of_scheme (scheme : String.ofList (head.map Char.toLower) ∈ allowedSchemes) :
    head ≠ [] := by
  rintro rfl
  exact absurd scheme (by decide)

theorem unescape_append (plain : '&' ∉ head) (tail : List Char) :
    unescape (head ++ tail) = head ++ unescape tail := by
  induction head with
  | nil => rfl
  | cons c head ih =>
    obtain ⟨here, later⟩ := not_or.mp (List.mem_cons.not.mp plain)
    rw [List.cons_append, unescape_cons (Ne.symm here), ih later, List.cons_append]

/-- Trimming keeps a front without white space. -/
theorem trim_append (nonempty : head ≠ []) (solid : ∀ c ∈ head, Text.isWhitespace c = false)
    (tail : List Char) :
    ∃ rest, (Text.trim (String.ofList (head ++ tail))).toList = head ++ rest := by
  have front : (head ++ tail).dropWhile Text.isWhitespace = head ++ tail := by
    cases head with
    | nil => exact absurd rfl nonempty
    | cons c head => simp [solid c List.mem_cons_self]
  have back : head.reverse.dropWhile Text.isWhitespace = head.reverse := by
    rw [List.dropWhile_eq_self_iff]
    intro inside
    exact Bool.eq_false_iff.mp (solid _ (List.mem_reverse.mp (List.getElem_mem inside)))
  rw [Text.trim, String.toList_ofList, String.toList_ofList, front, List.rdropWhile,
    List.reverse_append, List.dropWhile_append]
  split
  · exact ⟨[], by rw [back, List.reverse_reverse, List.append_nil]⟩
  · exact ⟨(tail.reverse.dropWhile Text.isWhitespace).reverse, by simp⟩

theorem allowedHref_of_schemed {value : List Char} (schemed : Schemed value) :
    allowedHref value = true := by
  rcases schemed with rfl | ⟨head, tail, rfl, scheme⟩
  · rfl
  · have plain : '&' ∉ head := notMem_of_scheme scheme (by decide) (by decide)
    obtain ⟨rest, trimmed⟩ :=
      trim_append (ne_nil_of_scheme scheme) (solid_of_scheme scheme) (unescape tail)
    rw [allowedHref, unescape_append plain, Bool.or_eq_true]
    refine .inr (List.any_eq_true.mpr ⟨_, scheme, ?_⟩)
    rw [Text.startsWith, Text.toAsciiLowercase, trimmed, String.toList_ofList, String.toList_ofList,
      List.map_append, List.isPrefixOf_iff_prefix]
    exact List.prefix_append _ _

/-! ## The shape of a line -/

def isMark (c : Char) : Bool := c == '*' || c == '_' || c == '`'

/-- What the passes put in the place of marks, and the end of an anchor. -/
def inlineTags : List String := ["", "</a>", "<strong>", "</strong>", "<code>", "</code>"]

/-- Text, tags, and links to allowed addresses. -/
inductive Inline : Marked → Prop where
  | nil : Inline []
  | char {x : Char × Bool} {m : Marked} (plain : x.1 ≠ '<') (rest : Inline m) : Inline (x :: m)
  | tag {t : String} {m : Marked} (known : t ∈ inlineTags) (rest : Inline m) :
      Inline (Marked.own t ++ m)
  | link {value m : Marked} (unquoted : ∀ x ∈ value, x.1 ≠ '"')
      (schemed : Schemed (value.map Prod.fst)) (rest : Inline m) :
      Inline (anchorStart ++ (value ++ (Marked.own "\">" ++ m)))

namespace Inline

theorem chars {t m : Marked} (plain : ∀ x ∈ t, x.1 ≠ '<') (rest : Inline m) :
    Inline (t ++ m) := by
  induction t with
  | nil => exact rest
  | cons x t ih =>
    exact .char (plain x List.mem_cons_self)
      (ih fun y member => plain y (List.mem_cons_of_mem x member))

/-- A line of this shape is read without a fault. -/
theorem calm {m : Marked} (shape : Inline m) : Calm allowedHref m := by
  have tags : ∀ t ∈ inlineTags, Place.text.after (Marked.own t) = .text ∧
      fine (fun _ => false) .text (Marked.own t) = true := by decide
  induction shape with
  | nil => exact .nil
  | @char x m plain _ ih =>
    have first : Calm allowedHref [x] := .of_text fun y member => by
      rw [List.mem_singleton.mp member]
      exact plain
    exact first.append ih
  | tag known _ ih => exact (Passes.own (tags _ known)).append ih
  | @link value m unquoted schemed _ ih =>
    intro rest
    have closing : Passes allowedHref (.tag []) .text (Marked.own ">") := .own (by decide)
    have split : anchorStart ++ (value ++ (Marked.own "\">" ++ m)) ++ rest =
        anchorStart ++ (value ++ ('"', false) :: (Marked.own ">" ++ (m ++ rest))) := by
      simp [Marked.own]
    rw [split, fine_anchor unquoted, allowedHref_of_schemed schemed, Bool.true_and, closing, ih]

end Inline

/-! ## Marks and tags -/

/-- Some marks have become tags. -/
inductive Retagged : Marked → Marked → Prop where
  | nil : Retagged [] []
  | keep (x : Char × Bool) {m n : Marked} (rest : Retagged m n) : Retagged (x :: m) (x :: n)
  | swap {x : Char × Bool} {t : String} {m n : Marked} (mark : isMark x.1 = true)
      (known : t ∈ inlineTags) (rest : Retagged m n) : Retagged (x :: m) (Marked.own t ++ n)

namespace Retagged

theorem refl (m : Marked) : Retagged m m := by
  induction m with
  | nil => exact .nil
  | cons x m ih => exact .keep x ih

variable {n : Marked}

theorem append {m m' n' : Marked} (first : Retagged m n) (second : Retagged m' n') :
    Retagged (m ++ m') (n ++ n') := by
  induction first with
  | nil => exact second
  | keep x _ ih => exact .keep x ih
  | swap mark known _ ih =>
    rw [List.cons_append, List.append_assoc]
    exact .swap mark known ih

theorem split {m m' : Marked} (tagged : Retagged (m ++ m') n) :
    ∃ first second, n = first ++ second ∧ Retagged m first ∧ Retagged m' second := by
  induction m generalizing n with
  | nil => exact ⟨[], n, rfl, .nil, tagged⟩
  | cons x m ih =>
    cases tagged with
    | keep x rest =>
      obtain ⟨first, second, rfl, one, other⟩ := ih rest
      exact ⟨x :: first, second, rfl, .keep x one, other⟩
    | @swap _ t _ _ mark known rest =>
      obtain ⟨first, second, rfl, one, other⟩ := ih rest
      exact ⟨Marked.own t ++ first, second, (List.append_assoc ..).symm, .swap mark known one,
        other⟩

/-- Without marks there is nothing to replace. -/
theorem eq_of_unmarked {m : Marked} (tagged : Retagged m n)
    (unmarked : ∀ x ∈ m, isMark x.1 = false) : n = m := by
  induction tagged with
  | nil => rfl
  | keep x _ ih => rw [ih fun y member => unmarked y (List.mem_cons_of_mem x member)]
  | @swap x _ _ _ mark _ _ _ =>
    rw [unmarked x List.mem_cons_self] at mark
    cases mark

theorem split_own {s : String} {m : Marked} (unmarked : s.toList.all (!isMark ·) = true)
    (tagged : Retagged (Marked.own s ++ m) n) :
    ∃ rest, n = Marked.own s ++ rest ∧ Retagged m rest := by
  obtain ⟨first, second, rfl, one, other⟩ := tagged.split
  refine ⟨second, ?_, other⟩
  rw [one.eq_of_unmarked fun x member => by
    simpa using List.all_eq_true.mp unmarked _ (Marked.mem_own member).2]

/-- Marks in a row become one tag. -/
theorem marks {m : Marked} {t : String} (nonempty : m ≠ []) (marked : ∀ x ∈ m, isMark x.1 = true)
    (known : t ∈ inlineTags) : Retagged m (Marked.own t) := by
  have dropped {m : Marked} (marked : ∀ x ∈ m, isMark x.1 = true) : Retagged m [] := by
    induction m with
    | nil => exact .nil
    | cons x m ih =>
      exact .swap (t := "") (marked x List.mem_cons_self) (by decide)
        (ih fun y member => marked y (List.mem_cons_of_mem x member))
  cases m with
  | nil => exact absurd rfl nonempty
  | cons x m =>
    have rest := dropped fun y member => marked y (List.mem_cons_of_mem x member)
    simpa using Retagged.swap (marked x List.mem_cons_self) known rest

theorem unquoted {m : Marked} (tagged : Retagged m n) (clean : ∀ x ∈ m, x.1 ≠ '"') :
    ∀ x ∈ n, x.1 ≠ '"' := by
  have tags : ∀ t ∈ inlineTags, '"' ∉ t.toList := by decide
  induction tagged with
  | nil => exact clean
  | keep x _ ih =>
    have later := ih fun y member => clean y (List.mem_cons_of_mem x member)
    intro y member
    rcases List.mem_cons.mp member with rfl | inside
    · exact clean y List.mem_cons_self
    · exact later y inside
  | @swap x t _ _ _ known _ ih =>
    have later := ih fun y member => clean y (List.mem_cons_of_mem x member)
    intro y member
    rcases List.mem_append.mp member with inside | inside
    · intro quote
      exact tags t known (quote ▸ (Marked.mem_own inside).2)
    · exact later y inside

theorem schemed {m : Marked} (tagged : Retagged m n) (schemed : Schemed (m.map Prod.fst)) :
    Schemed (n.map Prod.fst) := by
  rcases schemed with holder | ⟨head, tail, address, scheme⟩
  · rw [tagged.eq_of_unmarked fun x member => ?_]
    · exact .inl holder
    · have only : x.1 ∈ ['#'] := holder ▸ List.mem_map_of_mem member
      rw [List.mem_singleton.mp only]
      decide
  · obtain ⟨front, back, rfl, rfl, rfl⟩ := List.map_eq_append_iff.mp address
    obtain ⟨first, second, rfl, one, -⟩ := tagged.split
    have unmarked : ∀ x ∈ front, isMark x.1 = false := by
      intro x member
      have among : x.1 ∈ front.map Prod.fst := List.mem_map_of_mem member
      have star : '*' ∉ front.map Prod.fst := notMem_of_scheme scheme (by decide) (by decide)
      have under : '_' ∉ front.map Prod.fst := notMem_of_scheme scheme (by decide) (by decide)
      have tick : '`' ∉ front.map Prod.fst := notMem_of_scheme scheme (by decide) (by decide)
      simp [isMark, ne_of_mem_of_not_mem among star, ne_of_mem_of_not_mem among under,
        ne_of_mem_of_not_mem among tick]
    rw [one.eq_of_unmarked unmarked]
    exact .inr ⟨_, second.map Prod.fst, List.map_append .., scheme⟩

end Retagged

/-- The passes keep the shape of a line. -/
theorem Inline.retag {n : Marked} (shape : Inline m) (tagged : Retagged m n) : Inline n := by
  have tags : ∀ t ∈ inlineTags, t.toList.all (!isMark ·) = true := by decide
  induction shape generalizing n with
  | nil =>
    cases tagged
    exact .nil
  | char plain _ ih =>
    cases tagged with
    | keep x rest => exact .char plain (ih rest)
    | swap mark known rest => exact .tag known (ih rest)
  | tag known _ ih =>
    obtain ⟨rest, rfl, later⟩ := tagged.split_own (tags _ known)
    exact .tag known (ih later)
  | link unquoted schemed _ ih =>
    -- The tag itself holds no mark; inside the address some may have become tags.
    obtain ⟨rest, rfl, later⟩ := Retagged.split_own (s := "<a href=\"") (by decide) tagged
    obtain ⟨value, after, rfl, address, behind⟩ := later.split
    obtain ⟨last, rfl, ending⟩ := behind.split_own (by decide)
    exact .link (address.unquoted unquoted) (address.schemed schemed) (ih ending)

/-! ## The passes -/

/-- A rule of this module: it puts known tags in the place of marks. -/
structure Rule.Known (r : Rule) : Prop where
  mark : isMark r.mark = true
  width : 0 < r.width
  opening : r.opening ∈ inlineTags
  closing : r.closing ∈ inlineTags

namespace Rule

theorem marks_of_isPrefixOf {r : Rule} {m : Marked}
    (found : r.delimiter.isPrefixOf (m.map Prod.fst) = true) :
    (m.take r.width).length = r.width ∧ ∀ x ∈ m.take r.width, x.1 = r.mark := by
  have same : (m.take r.width).map Prod.fst = List.replicate r.width r.mark := by
    rw [List.map_take]
    have front := List.prefix_iff_eq_take.mp (List.isPrefixOf_iff_prefix.mp found)
    rw [delimiter, List.length_replicate] at front
    exact front.symm
  refine ⟨by simpa using congrArg List.length same, fun x member => ?_⟩
  exact List.eq_of_mem_replicate (same ▸ List.mem_map_of_mem member)

/-- A span is a text between marks. -/
theorem eq_of_spanAt {r : Rule} {m inside : Marked} (found : r.spanAt m = some inside) :
    ∃ front back tail, m = front ++ (inside ++ (back ++ tail)) ∧
      front.length = r.width ∧ back.length = r.width ∧
      (∀ x ∈ front, x.1 = r.mark) ∧ ∀ x ∈ back, x.1 = r.mark := by
  simp only [spanAt, Option.ite_none_right_eq_some, Bool.and_eq_true, Option.some.injEq] at found
  obtain ⟨⟨⟨first, -⟩, second⟩, taken⟩ := found
  rw [taken] at second
  obtain ⟨firstLength, firstMarks⟩ := marks_of_isPrefixOf first
  obtain ⟨secondLength, secondMarks⟩ := marks_of_isPrefixOf second
  have middle : inside ++ m.drop (r.width + inside.length) = m.drop r.width := by
    rw [← List.drop_drop]
    exact List.prefix_iff_eq_append.mp (taken ▸ List.takeWhile_prefix _)
  refine ⟨_, _, (m.drop (r.width + inside.length)).drop r.width, ?_, firstLength, secondLength,
    firstMarks, secondMarks⟩
  rw [List.take_append_drop, middle, List.take_append_drop]

end Rule

theorem retagged_replaceSpans {rules : List Rule} (known : ∀ r ∈ rules, r.Known) (skip : ℕ)
    (m : Marked) : Retagged (m.drop skip) (replaceSpans rules skip m) := by
  induction m generalizing skip with
  | nil => cases skip <;> exact .nil
  | cons x rest ih =>
    cases skip with
    | succ skip => exact ih skip
    | zero =>
      rw [replaceSpans]
      split
      · rename_i r inside found
        obtain ⟨rule, listed, spotted⟩ := List.exists_of_findSome?_eq_some found
        obtain ⟨_, spanned, same⟩ := Option.map_eq_some_iff.mp spotted
        cases same
        obtain ⟨front, back, tail, whole, frontLength, backLength, frontMarks, backMarks⟩ :=
          Rule.eq_of_spanAt spanned
        have rule := known r listed
        have positive := rule.width
        have after : rest.drop (2 * r.width + inside.length - 1) = tail := by
          have count : 2 * r.width + inside.length =
              (2 * r.width + inside.length - 1) + 1 := by omega
          rw [← List.drop_succ_cons (a := x), ← count, whole, ← List.append_assoc,
            ← List.append_assoc]
          exact List.drop_left' (by simp only [List.length_append]; omega)
        have opened : Retagged front (Marked.own r.opening) :=
          .marks (List.ne_nil_of_length_pos (frontLength ▸ positive))
            (fun y member => frontMarks y member ▸ rule.mark) rule.opening
        have closed : Retagged back (Marked.own r.closing) :=
          .marks (List.ne_nil_of_length_pos (backLength ▸ positive))
            (fun y member => backMarks y member ▸ rule.mark) rule.closing
        have later := ih (2 * r.width + inside.length - 1)
        rw [after] at later
        rw [List.drop_zero, whole]
        exact opened.append ((Retagged.refl inside).append (closed.append later))
      · exact .keep x (ih 0)

/-! ## Lines without faults -/

theorem subset_of_linkAt {text url : Marked} (found : linkAt m = some (text, url)) :
    text ⊆ m ∧ ∀ x ∈ url, Text.isWhitespace x.1 = false := by
  unfold linkAt at found
  split at found
  · rename_i rest
    simp only at found
    split at found
    · simp only [Option.ite_none_right_eq_some, Option.some.injEq, Prod.mk.injEq] at found
      obtain ⟨-, rfl, rfl⟩ := found
      refine ⟨fun x member => ?_, fun x member => ?_⟩
      · exact List.mem_cons_of_mem _ ((List.takeWhile_prefix _).subset member)
      · have passed := List.mem_takeWhile_imp member
        simp only [Bool.and_eq_true, Bool.not_eq_true'] at passed
        exact passed.2
    · cases found
  · cases found

theorem flatMap_quoteEntity (unquoted : '"' ∉ m.map Prod.fst) : m.flatMap quoteEntity = m := by
  induction m with
  | nil => rfl
  | cons x m ih =>
    obtain ⟨here, later⟩ := not_or.mp (List.mem_cons.not.mp unquoted)
    rw [List.flatMap_cons, ih later, quoteEntity, if_neg (Ne.symm here), List.singleton_append]

/-- An address without white space that has an allowed scheme begins with it. -/
theorem exists_scheme {url : Marked} (solid : ∀ x ∈ url, Text.isWhitespace x.1 = false)
    (allowed : hasAllowedScheme url.plain = true) :
    ∃ front back, url = front ++ back ∧
      String.ofList ((front.map Prod.fst).map Char.toLower) ∈ allowedSchemes := by
  have chars : url.plain.toList = url.map Prod.fst := by rw [Marked.plain, String.toList_ofList]
  have trimmed : Text.trim url.plain = url.plain := by
    refine Text.trim_of_no_whitespace fun c member => ?_
    rw [chars] at member
    obtain ⟨x, inside, rfl⟩ := List.mem_map.mp member
    exact solid x inside
  obtain ⟨scheme, listed, starts⟩ := List.any_eq_true.mp allowed
  rw [trimmed, Text.startsWith, Text.toAsciiLowercase, String.toList_ofList, chars] at starts
  have front := List.prefix_iff_eq_take.mp (List.isPrefixOf_iff_prefix.mp starts)
  refine ⟨url.take scheme.toList.length, url.drop scheme.toList.length,
    (List.take_append_drop ..).symm, ?_⟩
  rw [List.map_take, List.map_take, ← front, String.ofList_toList]
  exact listed

theorem schemed_sanitizeHref {url : Marked} (solid : ∀ x ∈ url, Text.isWhitespace x.1 = false) :
    Schemed ((sanitizeHref url).map Prod.fst) := by
  rw [sanitizeHref]
  split
  · rename_i allowed
    obtain ⟨front, back, rfl, scheme⟩ := exists_scheme solid allowed
    have unquoted : '"' ∉ front.map Prod.fst := notMem_of_scheme scheme (by decide) (by decide)
    rw [List.flatMap_append, flatMap_quoteEntity unquoted, List.map_append]
    exact .inr ⟨_, _, rfl, scheme⟩
  · exact .inl rfl

theorem unquoted_sanitizeHref (url : Marked) : ∀ x ∈ sanitizeHref url, x.1 ≠ '"' := by
  have entities : ∀ x : Char × Bool, ∀ y ∈ quoteEntity x, y.1 ≠ '"' := by
    intro x y member quote
    rw [quoteEntity] at member
    split at member
    · obtain ⟨c, inside, rfl⟩ := List.mem_map.mp member
      cases (quote : c = '"')
      exact absurd inside (by decide)
    · rename_i solid
      exact solid (List.mem_singleton.mp member ▸ quote)
  intro x member
  rw [sanitizeHref] at member
  split at member
  · obtain ⟨y, _, inside⟩ := List.mem_flatMap.mp member
    exact entities y x inside
  · intro quote
    exact absurd (quote ▸ (Marked.mem_own member).2) (by decide)

theorem inline_linked (plain : ∀ x ∈ m, x.1 ≠ '<') (skip : ℕ) : Inline (linked skip m) := by
  induction m generalizing skip with
  | nil => cases skip <;> exact .nil
  | cons x rest ih =>
    have later := ih fun y member => plain y (List.mem_cons_of_mem x member)
    cases skip with
    | succ skip => exact later skip
    | zero =>
      rw [linked]
      split
      · rename_i text url found
        obtain ⟨textInside, solid⟩ := subset_of_linkAt found
        exact .link (unquoted_sanitizeHref url) (schemed_sanitizeHref solid)
          (.chars (fun y member => plain y (textInside member))
            (.tag (by decide) (later _)))
      · exact .char (plain x List.mem_cons_self) (later 0)

theorem inline_inlineMd (s : String) : Inline (inlineMd s) := by
  have pass {m : Marked} (r : Rule) (known : r.Known) (shape : Inline m) :
      Inline (replaceSpans [r] 0 m) :=
    shape.retag (retagged_replaceSpans (fun r member => List.mem_singleton.mp member ▸ known) 0 m)
  have escaped : Inline (linked 0 (escapeHtml s)) := inline_linked (plain_escapeHtml s) 0
  exact pass code ⟨by decide, by decide, by decide, by decide⟩
    (pass boldUnder ⟨by decide, by decide, by decide, by decide⟩
      (pass boldStar ⟨by decide, by decide, by decide, by decide⟩ escaped))

/-! ## Texts without faults -/

/-- Markup of one's own that starts and ends in text. -/
def Whole (s : String) : Prop :=
  Place.text.after (Marked.own s) = .text ∧ fine (fun _ => false) .text (Marked.own s) = true

instance (s : String) : Decidable (Whole s) := inferInstanceAs (Decidable (_ ∧ _))

theorem calm_own {s : String} (whole : Whole s) : Calm allowedHref (Marked.own s) := .own whole

/-- Tags one after the other. -/
def ownAll (pieces : List String) : Marked := pieces.flatMap Marked.own

theorem calm_ownAll {pieces : List String} (whole : ∀ s ∈ pieces, Whole s) :
    Calm allowedHref (ownAll pieces) :=
  .flatMap fun s listed => calm_own (whole s listed)

theorem calm_wrap {before after : String} (tags : Whole before ∧ Whole after)
    (inside : Calm allowedHref m) : Calm allowedHref (wrap before m after) :=
  (calm_own tags.1).append (inside.append (calm_own tags.2))

theorem calm_flatten {pieces : List Marked} (each : ∀ m ∈ pieces, Calm allowedHref m) :
    Calm allowedHref pieces.flatten := by
  rw [← List.flatMap_id]
  exact .flatMap each

theorem calm_breakLines {pieces : List Marked} (each : ∀ m ∈ pieces, Calm allowedHref m) :
    Calm allowedHref (breakLines pieces) := by
  cases pieces with
  | nil => exact .nil
  | cons m pieces =>
    refine (each m List.mem_cons_self).append (Calm.flatMap fun line inside => ?_)
    exact (calm_own (by decide)).append (each line (List.mem_cons_of_mem m inside))

namespace Draft

/-- All that was written reads without a fault. -/
structure Settled (d : Draft) : Prop where
  out : Calm allowedHref d.out
  para : ∀ m ∈ d.para, Calm allowedHref m
  list : ∀ m ∈ d.list, Calm allowedHref m

variable {d : Draft}

theorem Settled.flushPara (settled : d.Settled) : d.flushPara.Settled := by
  rw [Draft.flushPara]
  split
  · exact settled
  · exact { settled with
      out := settled.out.append (calm_wrap (by decide) (calm_breakLines settled.para))
      para := fun m member => absurd member List.not_mem_nil }

theorem Settled.flushList (settled : d.Settled) : d.flushList.Settled := by
  rw [Draft.flushList]
  split
  · exact settled
  · exact { settled with
      out := settled.out.append (calm_wrap (by decide) (calm_flatten settled.list))
      list := fun m member => absurd member List.not_mem_nil }

theorem Settled.addLine (settled : d.Settled) (raw : String) : (d.addLine raw).Settled := by
  have line (s : String) : Calm allowedHref (inlineMd s) := (inline_inlineMd s).calm
  rw [Draft.addLine]
  split
  · exact settled.flushPara.flushList
  · split
    · have done := settled.flushPara.flushList
      exact { done with out := done.out.append (calm_wrap (by decide) (line _)) }
    · split
      · have kept := settled.flushPara
        refine { kept with list := fun m member => ?_ }
        rcases List.mem_append.mp member with old | new
        · exact kept.list m old
        · rw [List.mem_singleton.mp new]
          exact calm_wrap (by decide) (line _)
      · have kept := settled.flushList
        refine { kept with para := fun m member => ?_ }
        rcases List.mem_append.mp member with old | new
        · exact kept.para m old
        · rw [List.mem_singleton.mp new]
          exact line _

end Draft

/-- A text component shows no other links than allowed ones. -/
theorem calm_mdToHtml (md : String) : Calm allowedHref (mdToHtml md) := by
  have blank : Draft.Settled {} :=
    ⟨.nil, fun _ member => absurd member List.not_mem_nil,
      fun _ member => absurd member List.not_mem_nil⟩
  have written : ((Text.lines md).foldl Draft.addLine {}).Settled :=
    List.foldlRecOn _ _ blank fun d settled raw _ => settled.addLine raw
  exact written.flushPara.flushList.out

end Triton.Email
