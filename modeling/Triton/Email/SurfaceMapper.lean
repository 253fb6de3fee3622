/-
# Surfaces as mails

The mapper writes every component as a block of HTML and as plain text, derives a
subject from the first text, and wraps the blocks in a document. Buttons in a row share
one block. A document over the limit loses its last blocks; a single block over the
limit is cut inside.

Most blocks hold no address of their own making, or one that the Markdown passes have
checked. A button and a source take the address they are given: of a button's only the
first letters are looked at, of a source's nothing.
-/

import Triton.A2ui.PlainText
import Triton.Chat.Mapper
import Triton.Email.Markdown

namespace Triton.Email

open Triton.Lib Triton.Lib.Html Triton.A2ui
open Triton.Chat (RenderError)

def emailHtmlMaxBytes : ℕ := 512000

def truncationSentinelHtml : String :=
  "<p style=\"color:#999\"><em>[truncated — message exceeded the email size limit]</em></p>"

def truncationSentinelText : String := "\n\n[truncated — message exceeded the email size limit]"

def defaultSubject : String := "A message from your assistant"

/-! ## Blocks -/

/-- A link: its address, and the markup before and after it. -/
structure Anchor where
  lead : Marked
  address : String
  tail : Marked
  opens : Passes allowedHref .text (.value (some '"') ['f', 'e', 'r', 'h'] []) lead
  closes : Passes allowedHref (.tag []) .text tail

namespace Anchor

def html (a : Anchor) : Marked := a.lead ++ (escapeAttr a.address ++ ('"', false) :: a.tail)

def actionStyle : String :=
  " style=\"display:inline-block;padding:8px 14px;margin:4px 6px 4px 0;background:#eef;" ++
    "border-radius:8px;color:#1a3;text-decoration:none;font-weight:600\">"

def action (link : String × String) : Anchor where
  lead := anchorStart
  address := link.2
  tail := Marked.own actionStyle ++ (escapeHtml link.1 ++ Marked.own "</a>")
  opens := .own (by decide)
  closes := (Passes.own (by decide +kernel)).append
    ((calm_escapeHtml link.1).append (calm_own (by decide)))

def source (item : SourceItem) : Anchor where
  lead := Marked.own "<li>" ++ anchorStart
  address := item.resource
  tail := Marked.own ">" ++ (escapeHtml item.label ++ Marked.own "</a></li>")
  opens := (calm_own (by decide)).append (.own (by decide))
  closes := (Passes.own (by decide)).append
    ((calm_escapeHtml item.label).append (calm_own (by decide)))

end Anchor

/-- A block of the body: without links other than allowed ones, or a row of links with
the addresses they were given. -/
inductive Block where
  | prose (html : Marked) (calm : Calm allowedHref html)
  | links (before : String) (anchors : List Anchor) (after : String)
      (tags : Whole before ∧ Whole after)

def Block.html : Block → Marked
  | .prose html _ => html
  | .links before anchors after _ => wrap before (anchors.flatMap Anchor.html) after

namespace Block

/-- Text between tags. -/
def framed (before text after : String) (tags : Whole before ∧ Whole after) : Block :=
  .prose (wrap before (escapeHtml text) after) (calm_wrap tags (calm_escapeHtml text))

def markdown (value : String) : Block := .prose (mdToHtml value) (calm_mdToHtml value)

def actions (links : List (String × String)) : Block :=
  .links "<p class=\"actions\">" (links.map .action) "</p>" (by decide)

def sources (items : List SourceItem) : Block :=
  .links "<p><strong>Sources</strong></p><ul>" (items.map .source) "</ul>" (by decide)

def selection (prompt : String) (labels : List String) : Block :=
  .prose (wrap "<p>" (escapeHtml prompt) "</p>" ++
      wrap "<ul>" (labels.flatMap fun label => wrap "<li>" (escapeHtml label) "</li>") "</ul>")
    ((calm_wrap (by decide) (calm_escapeHtml prompt)).append
      (calm_wrap (by decide)
        (Calm.flatMap fun label _ => calm_wrap (by decide) (calm_escapeHtml label))))

def form (title : String) (labels : List String) : Block :=
  .prose (wrap "<p><strong>" (escapeHtml title) "</strong></p>" ++
      wrap "<ul>" (labels.flatMap fun label => wrap "<li>" (escapeHtml label)
          ": <span style=\"color:#999\">____</span></li>")
        "</ul><p style=\"color:#999\"><em>Open in the app to submit.</em></p>")
    ((calm_wrap (by decide) (calm_escapeHtml title)).append
      (calm_wrap (by decide)
        (Calm.flatMap fun label _ => calm_wrap (by decide) (calm_escapeHtml label))))

end Block

/-! ## Tables -/

def cell (text : String) : Marked := wrap "<td>" (escapeHtml text) "</td>"

def tileRow (hasTrend : Bool) (t : DashboardTile) : Marked :=
  wrap "<tr>" (cell t.label ++ (cell t.value ++
    if hasTrend then cell (t.trend.getD "") else [])) "</tr>"

def tableHead (hasTrend : Bool) : List String :=
  ["<tr>", "<th align=\"left\">Metric</th>", "<th align=\"left\">Value</th>"] ++
    (if hasTrend then ["<th align=\"left\">Trend</th>"] else []) ++ ["</tr>"]

def caption (title : String) : Marked :=
  if title.isEmpty then []
  else wrap "<caption style=\"text-align:left;font-weight:600;padding-bottom:4px\">"
    (escapeHtml title) "</caption>"

def dashboardTable (title : String) (tiles : List DashboardTile) : Marked :=
  let hasTrend := tiles.any (·.trend.isSome)
  wrap "<table cellpadding=\"6\" style=\"border-collapse:collapse;border:1px solid #ddd\">"
    (caption title ++ (ownAll (tableHead hasTrend) ++ tiles.flatMap (tileRow hasTrend)))
    "</table>"

theorem calm_cell (text : String) : Calm allowedHref (cell text) :=
  calm_wrap (by decide) (calm_escapeHtml text)

theorem calm_tileRow (hasTrend : Bool) (t : DashboardTile) :
    Calm allowedHref (tileRow hasTrend t) := by
  refine calm_wrap (by decide) ((calm_cell _).append ((calm_cell _).append ?_))
  cases hasTrend with
  | true => exact calm_cell _
  | false => exact Calm.nil

theorem calm_dashboardTable (title : String) (tiles : List DashboardTile) :
    Calm allowedHref (dashboardTable title tiles) := by
  have head : ∀ hasTrend, ∀ s ∈ tableHead hasTrend, Whole s := by decide
  have top : Calm allowedHref (caption title) := by
    rw [caption]
    split
    · exact Calm.nil
    · exact calm_wrap (by decide) (calm_escapeHtml title)
  exact calm_wrap (by decide)
    (top.append ((calm_ownAll (head _)).append (Calm.flatMap fun row _ => calm_tileRow _ row)))

/-! ## The loop -/

/-- What the loop over the components has gathered. -/
structure Gathered where
  html : List Block := []
  text : List String := []
  deferredForms : ℕ := 0
  /-- Buttons in a row, with their addresses. -/
  pending : List (String × String) := []

namespace Gathered

def flush (g : Gathered) : Gathered :=
  if g.pending.isEmpty then g
  else
    { g with
      html := g.html ++ [.actions g.pending]
      text := g.text ++ ["  ".intercalate (g.pending.map fun link => "[" ++ link.1 ++ "]")]
      pending := [] }

def push (g : Gathered) (block : Block) (text : String) : Gathered :=
  let flushed := g.flush
  { flushed with html := flushed.html ++ [block], text := flushed.text ++ [text] }

/-- Where a button leads. -/
def buttonHref (resource : Option String) : String :=
  (resource.filter fun r => Text.startsWith r "ui://" || Text.startsWith r "http").getD "#"

def dashboardText (title : String) (tiles : List DashboardTile) : String :=
  Text.trimEnd ((if title.isEmpty then "" else title ++ "\n") ++
    "".intercalate (tiles.map fun t => "- " ++ t.label ++ ": " ++ t.value ++ "\n"))

/-- The kinds that a mail has a rule of its own for. -/
def addNative (g : Gathered) : Component → Gathered
  | .text value _ => g.push (.markdown value) (stripMarkdown value)
  | .narration text =>
    g.push (.framed "<p style=\"color:#666\"><em>" text "</em></p>" (by decide))
      ("(" ++ text ++ ")")
  | .button label _ _ _ resource _ =>
    { g with pending := g.pending ++ [(label, buttonHref resource)] }
  | .selection prompt options _ _ _ _ =>
    let labels := options.map SelectionOption.label
    g.push (.selection prompt labels) (prompt ++ "\n- " ++ "\n- ".intercalate labels)
  | .form title fields _ _ _ _ =>
    let g := g.push (.form title (fields.map FormField.label))
      (title ++ " (open in the app to submit)")
    { g with deferredForms := g.deferredForms + 1 }
  | .dashboard title tiles =>
    g.push (.prose (dashboardTable title tiles) (calm_dashboardTable title tiles))
      (dashboardText title tiles)
  | .report reportId _ _ _ _ =>
    g.push (.framed "<p>📊 <em>" reportId "</em></p>" (by decide)) ("📊 " ++ reportId)
  | .diff diff =>
    let text := PlainText.diffToText diff
    g.push (.framed "<pre style=\"font-family:monospace\">" text "</pre>" (by decide)) text
  | .sources items =>
    if items.isEmpty then g.flush
    else
      g.push (.sources items)
        ("Sources: " ++ " · ".intercalate (items.map SourceItem.label))
  | _ => g

def add (isAllowedLink : String → Bool) (g : Gathered) (c : Component) : Gathered :=
  if c.isConversation then
    match PlainText.degrade isAllowedLink c with
    | some t => g.push (.framed "<p style=\"white-space:pre-wrap\">" t "</p>" (by decide)) t
    | none => g
  else g.addNative c

end Gathered

def gatherAll (isAllowedLink : String → Bool) (surface : Surface) : Gathered :=
  (surface.components.foldl (Gathered.add isAllowedLink) {}).flush

/-! ## The document -/

/-- The first line of the first text, or a phrase of the adapter's. -/
def deriveSubject (surface : Surface) : String :=
  let lead := surface.components.findSome? fun c =>
    match c with
    | .text value _ => ((Text.lines value).map Text.trim).find? (!·.isEmpty)
    | _ => none
  match lead with
  | none => defaultSubject
  | some line =>
    let stripped := Text.trim (stripMarkdown line)
    if stripped.isEmpty then defaultSubject
    else if stripped.toList.length ≤ 120 then stripped
    else Text.trimEnd (String.ofList (stripped.toList.take 120)) ++ "…"

/-- What is kept of the blocks. -/
inductive Body where
  | whole (blocks : List Block)
  | cut (front : Marked)

def htmlBudget : ℕ := emailHtmlMaxBytes - Text.len truncationSentinelHtml

def keptBlocks (blocks : List Block) : List Block :=
  Text.fitting (fun block => block.html.len) 0 htmlBudget 0 true blocks

def totalBytes (blocks : List Block) : ℕ := blocks.foldl (fun n block => n + block.html.len) 0

/-- The blocks under the limit, and whether something was cut. At least one is kept, cut
inside when it is over the limit alone. -/
def truncateBlocks (blocks : List Block) : Body × Bool :=
  if totalBytes blocks ≤ emailHtmlMaxBytes then (.whole blocks, false)
  else
    match keptBlocks blocks, blocks with
    | [], first :: _ => (.cut (first.html.clip htmlBudget), true)
    | kept, _ => (.whole kept, true)

/-- The plain text of the blocks that are kept. -/
def truncateTexts (blocks : List Block) (texts : List String) : List String :=
  if totalBytes blocks ≤ emailHtmlMaxBytes then texts
  else
    match texts.take (max (keptBlocks blocks).length 1) with
    | [only] => [String.ofList (Text.takeBytes htmlBudget only.toList)]
    | kept => kept

def joinBlocks : List Marked → Marked
  | [] => []
  | block :: rest => block ++ rest.flatMap (Marked.own "\n" ++ ·)

def Body.html : Body → Marked
  | .whole blocks => joinBlocks (blocks.map Block.html)
  | .cut front => front

def documentStart : List String :=
  ["<!doctype html>\n", "<html><head><meta charset=\"utf-8\">",
    "<meta name=\"viewport\" content=\"width=device-width\">", "<title>"]

def bodyStart : List String :=
  ["</title></head>",
    "<body style=\"font-family:-apple-system,Segoe UI,Roboto,sans-serif;color:#222;" ++
      "max-width:640px;margin:0 auto;padding:16px;line-height:1.5\">\n"]

def documentEnd (truncated : Bool) : List String :=
  (if truncated then ["\n", truncationSentinelHtml] else []) ++ ["\n</body></html>"]

def documentHead (subject : String) : Marked :=
  ownAll documentStart ++ (escapeHtml subject ++ ownAll bodyStart)

def wrapDocument (subject : String) (body : Body) (truncated : Bool) : Marked :=
  documentHead subject ++ (body.html ++ ownAll (documentEnd truncated))

structure RenderedEmail where
  subject : String
  html : Marked
  text : String
  deferredButtons : ℕ
  deferredSelections : ℕ
  deferredForms : ℕ
  deferredDashboards : ℕ
  truncated : Bool

/-- The mail of what was gathered. -/
def emailOf (surface : Surface) (g : Gathered) : RenderedEmail :=
  let subject := deriveSubject surface
  let (body, truncated) := truncateBlocks g.html
  { subject := subject
    html := wrapDocument subject body truncated
    text := "\n\n".intercalate (truncateTexts g.html g.text) ++
      (if truncated then truncationSentinelText else "")
    deferredButtons := 0
    deferredSelections := 0
    deferredForms := g.deferredForms
    deferredDashboards := 0
    truncated := truncated }

def render (isAllowedLink : String → Bool) (surface : Surface) :
    Except RenderError RenderedEmail :=
  let g := gatherAll isAllowedLink surface
  if g.html.isEmpty then .error .emptyAfterRender else .ok (emailOf surface g)

/-! ## Links -/

/-- Every address in the document is allowed, and nothing that was produced elsewhere
opens a tag or ends a value. -/
def Harmless (html : Marked) : Prop := fine allowedHref .text html = true

instance (html : Marked) : Decidable (Harmless html) := inferInstanceAs (Decidable (_ = true))

def allowedAddress (address : String) : Bool := address == "#" || hasAllowedScheme address

/-- The addresses of a button or of sources. A button that sends a message has none. -/
def addresses (c : Component) : List String :=
  if c.isConversation then []
  else
    match c with
    | .button _ _ _ _ resource _ => [Gathered.buttonHref resource]
    | .sources items => items.map SourceItem.resource
    | _ => []

/-- The links whose address ends within so many bytes. -/
def reached : ℕ → List Anchor → List Anchor
  | _, [] => []
  | budget, a :: rest =>
    if a.lead.len + (escapeAttr a.address).len < budget then
      a :: reached (budget - a.html.len) rest
    else []

namespace Block

def anchors : Block → List Anchor
  | .prose _ _ => []
  | .links _ anchors _ _ => anchors

/-- The links of a block that is cut whose address ends before the cut. -/
def anchorsBefore (budget : ℕ) : Block → List Anchor
  | .prose _ _ => []
  | .links before anchors _ _ => reached (budget - (Marked.own before).len) anchors

end Block

/-- How many addresses end before the document is cut. -/
def addressesKept (blocks : List Block) : ℕ :=
  if totalBytes blocks ≤ emailHtmlMaxBytes then (blocks.flatMap Block.anchors).length
  else
    match keptBlocks blocks, blocks with
    | [], first :: _ => (first.anchorsBefore htmlBudget).length
    | kept, _ => (kept.flatMap Block.anchors).length

/-- An address that is open where a block is cut: it goes on in the note that follows, up
to its first blank or quote. -/
def openAddress : Place → Option (List Char)
  | .equals name => if Place.isHref name then some "<p".toList else none
  | .value none name soFar => if Place.isHref name then some soFar.reverse else none
  | .value (some '"') name soFar =>
    if Place.isHref name then some (soFar.reverse ++ "\n<p style=".toList) else none
  | _ => none

/-- Where the reader stands when a first block is cut that is over the limit alone. -/
def cutPlace (blocks : List Block) : Place :=
  if totalBytes blocks ≤ emailHtmlMaxBytes then .text
  else
    match keptBlocks blocks, blocks with
    | [], first :: _ => Place.text.after (first.html.clip htmlBudget)
    | _, _ => .text

/-- Escaping an address does not change whether it is allowed. -/
theorem allowedHref_escapeAttr (address : String) :
    allowedHref ((escapeAttr address).map Prod.fst) = allowedAddress address := by
  have chars : (escapeAttr address).map Prod.fst = address.toList.flatMap attrEntity := by
    simp [escapeAttr, Function.comp_def]
  have holder : (address.toList.flatMap attrEntity == ['#']) = (address == "#") := by
    rw [Bool.eq_iff_iff, beq_iff_eq, beq_iff_eq]
    constructor
    · intro same
      have back := unescape_escapeAttr address.toList
      rw [same] at back
      exact String.toList_inj.mp back.symm
    · rintro rfl
      decide
  rw [allowedHref, chars, holder, unescape_escapeAttr, String.ofList_toList, allowedAddress]

namespace Anchor

variable (a : Anchor)

theorem fine_html (rest : Marked) :
    fine allowedHref .text (a.html ++ rest) =
      (allowedAddress a.address && fine allowedHref .text rest) := by
  simp only [html, List.append_assoc, List.cons_append]
  rw [a.opens, fine_value (unquoted_escapeAttr a.address), a.closes, List.reverse_nil,
    List.nil_append, allowedHref_escapeAttr]
  rfl

/-- Cut inside, a link counts when its address has ended. -/
theorem fine_clip (budget : ℕ) :
    fine allowedHref .text (a.html.clip budget) =
      (decide (budget ≤ a.lead.len + (escapeAttr a.address).len) ||
        allowedAddress a.address) := by
  have address : fine allowedHref .text (a.lead ++ escapeAttr a.address) = true := by
    rw [a.opens]
    exact fine_open_value (unquoted_escapeAttr a.address) _ _
  have quote : Char.utf8Size '"' = 1 := by decide
  rw [html, ← List.append_assoc, Marked.clip_append, Marked.len_append]
  by_cases early : budget ≤ a.lead.len + (escapeAttr a.address).len
  · rw [decide_eq_true early, Bool.true_or]
    split
    · have full : budget - (a.lead.len + (escapeAttr a.address).len) = 0 := by omega
      rw [full, Marked.clip, quote, if_neg (by omega), List.append_nil]
      exact address
    · exact fine_of_isPrefix address (Marked.clip_isPrefix _ _)
  · have room : 1 ≤ budget - (a.lead.len + (escapeAttr a.address).len) := by omega
    rw [decide_eq_false early, Bool.false_or, if_pos (by omega), Marked.clip, quote, if_pos room,
      List.append_assoc, a.opens, fine_value (unquoted_escapeAttr a.address), a.closes.clip,
      List.reverse_nil, List.nil_append, allowedHref_escapeAttr, Bool.and_true]
    rfl

end Anchor

theorem fine_anchors (anchors : List Anchor) (rest : Marked) :
    fine allowedHref .text (anchors.flatMap Anchor.html ++ rest) =
      ((anchors.all fun a => allowedAddress a.address) && fine allowedHref .text rest) := by
  induction anchors with
  | nil => rfl
  | cons a anchors ih =>
    rw [List.flatMap_cons, List.append_assoc, a.fine_html, ih, List.all_cons, Bool.and_assoc]

theorem reached_zero (anchors : List Anchor) : reached 0 anchors = [] := by
  cases anchors <;> simp [reached]

theorem fine_clip_anchors {ending : Marked} (calm : Calm allowedHref ending) (budget : ℕ)
    (anchors : List Anchor) :
    fine allowedHref .text (Marked.clip budget (anchors.flatMap Anchor.html ++ ending)) =
      (reached budget anchors).all fun a => allowedAddress a.address := by
  induction anchors generalizing budget with
  | nil => exact calm.clip budget
  | cons a anchors ih =>
    have size : a.html.len = a.lead.len + ((escapeAttr a.address).len + (1 + a.tail.len)) := by
      rw [Anchor.html, Marked.len_append, Marked.len_append, Marked.len_cons]
      rfl
    rw [List.flatMap_cons, List.append_assoc, Marked.clip_append, reached]
    by_cases fits : a.html.len ≤ budget
    · rw [if_pos fits, if_pos (by omega), a.fine_html, ih, List.all_cons]
    · rw [if_neg fits, a.fine_clip, Nat.sub_eq_zero_of_le (by omega), reached_zero]
      by_cases early : budget ≤ a.lead.len + (escapeAttr a.address).len
      · rw [if_neg (by omega), decide_eq_true early]
        rfl
      · rw [if_pos (by omega), decide_eq_false early]
        simp

/-- A block is read without a fault exactly when its links are allowed, and then the
reader is back in text. -/
theorem fine_block (block : Block) (rest : Marked) :
    fine allowedHref .text (block.html ++ rest) =
      ((block.anchors.all fun a => allowedAddress a.address) && fine allowedHref .text rest) := by
  cases block with
  | prose html calm => exact calm rest
  | links before anchors after tags =>
    simp only [Block.html, Block.anchors, wrap, List.append_assoc]
    rw [calm_own tags.1, fine_anchors, calm_own tags.2]

theorem fine_clip_block (block : Block) (budget : ℕ) :
    fine allowedHref .text (block.html.clip budget) =
      (block.anchorsBefore budget).all fun a => allowedAddress a.address := by
  cases block with
  | prose html calm => exact calm.clip budget
  | links before anchors after tags =>
    rw [Block.html, Block.anchorsBefore, wrap, Marked.clip_append]
    split
    · rw [calm_own tags.1, fine_clip_anchors (calm_own tags.2)]
    · rw [Nat.sub_eq_zero_of_le (by omega), reached_zero]
      exact (calm_own tags.1).clip budget

theorem anchorsBefore_isPrefix (budget : ℕ) (block : Block) :
    block.anchorsBefore budget <+: block.anchors := by
  have front (anchors : List Anchor) (budget : ℕ) : reached budget anchors <+: anchors := by
    fun_induction reached budget anchors with
    | case1 => exact List.prefix_rfl
    | case2 budget a rest _ ih => exact List.cons_prefix_cons.mpr ⟨rfl, ih⟩
    | case3 => exact List.nil_prefix
  cases block with
  | prose html calm => exact List.prefix_rfl
  | links before anchors after tags => exact front anchors _

theorem fine_joinBlocks (blocks : List Block) (rest : Marked) :
    fine allowedHref .text (joinBlocks (blocks.map Block.html) ++ rest) =
      (((blocks.flatMap Block.anchors).all fun a => allowedAddress a.address) &&
        fine allowedHref .text rest) := by
  have lineBreak : Calm allowedHref (Marked.own "\n") := calm_own (by decide)
  have following (blocks : List Block) :
      fine allowedHref .text ((blocks.map Block.html).flatMap (Marked.own "\n" ++ ·) ++ rest) =
        (((blocks.flatMap Block.anchors).all fun a => allowedAddress a.address) &&
          fine allowedHref .text rest) := by
    induction blocks with
    | nil => rfl
    | cons block blocks ih =>
      simp only [List.map_cons, List.flatMap_cons, List.append_assoc]
      rw [lineBreak, fine_block, ih, List.all_append, Bool.and_assoc]
  cases blocks with
  | nil => rfl
  | cons block blocks =>
    rw [List.map_cons, joinBlocks, List.append_assoc, fine_block, following, List.flatMap_cons,
      List.all_append, Bool.and_assoc]

theorem calm_documentHead (subject : String) : Calm allowedHref (documentHead subject) :=
  (calm_ownAll (by decide +kernel)).append
    ((calm_escapeHtml subject).append (calm_ownAll (by decide +kernel)))

/-- What follows a cut begins with a quoted style. The rest is read to its end from inside
the quote, and from behind it. -/
theorem documentEnd_true : ∃ colour : Marked,
    ownAll (documentEnd true) = Marked.own "\n<p style=" ++ ('"', false) :: colour ∧
      (∀ x ∈ colour, x.1 ≠ '\'') ∧ fine allowedHref (.tag []) colour = true ∧
      fine allowedHref (.value (some '"') ['e', 'l', 'y', 't', 's'] []) colour = true :=
  ⟨(ownAll (documentEnd true)).drop 11, by decide +kernel⟩

/-- What follows a cut is the adapter's own, but for an address that is still open. -/
theorem fine_documentEnd {place : Place} (quoted : place.Quoted) :
    fine allowedHref place (ownAll (documentEnd true)) =
      (openAddress place).all allowedHref := by
  obtain ⟨colour, start, unended, behind, inside⟩ := documentEnd_true
  rw [start]
  -- unless a quote is open, the reader gets to that of the style
  have reached {address : Option (List Char)} {text : Bool}
      (reads : text = (address.all allowedHref &&
        fine allowedHref (.value (some '"') ['e', 'l', 'y', 't', 's'] []) colour)) :
      text = address.all allowedHref := by
    rw [reads, inside, Bool.and_true]
  cases place with
  | text | tag | equals => exact reached rfl
  | value quote name soFar =>
    cases quote with
    | none => exact reached rfl
    | some quote =>
      rcases quoted with rfl | rfl
      · rw [fine_value (by decide), behind, openAddress]
        cases Place.isHref name <;> simp [Marked.own]
      · exact fine_open_value (by simpa [Marked.own] using unended) name soFar

theorem harmless_wrapDocument_whole (subject : String) (blocks : List Block) (truncated : Bool) :
    Harmless (wrapDocument subject (.whole blocks) truncated) ↔
      ((blocks.flatMap Block.anchors).all fun a => allowedAddress a.address) = true := by
  have stop : Calm allowedHref (ownAll (documentEnd truncated)) :=
    calm_ownAll (by cases truncated <;> decide +kernel)
  have ending := stop []
  rw [List.append_nil] at ending
  rw [Harmless, wrapDocument, calm_documentHead, Body.html, fine_joinBlocks, ending]
  simp [fine]

/-! ### The addresses of a surface -/

namespace Gathered

variable (g : Gathered)

/-- The addresses gathered so far. -/
def addresses : List String :=
  (g.html.flatMap Block.anchors).map Anchor.address ++ g.pending.map Prod.snd

theorem addresses_flush : g.flush.addresses = g.addresses ∧ g.flush.pending = [] := by
  unfold flush addresses
  split
  · rename_i empty
    exact ⟨rfl, List.isEmpty_iff.mp empty⟩
  · simp [Block.actions, Block.anchors, Anchor.action, Function.comp_def]

theorem addresses_push (block : Block) (text : String) :
    (g.push block text).addresses = g.addresses ++ block.anchors.map Anchor.address := by
  obtain ⟨same, none⟩ := g.addresses_flush
  rw [← same]
  simp [push, addresses, none]

theorem addresses_add (isAllowedLink : String → Bool) (c : Component) :
    (g.add isAllowedLink c).addresses = g.addresses ++ Email.addresses c := by
  unfold add Email.addresses
  split
  · split
    · exact g.addresses_push _ _
    · simp
  · cases c with
    | sources items =>
      simp only [addNative]
      split
      · rename_i none
        rw [g.addresses_flush.1, List.isEmpty_iff.mp none]
        simp
      · rw [g.addresses_push]
        simp [Block.sources, Block.anchors, Anchor.source, Function.comp_def]
    | button => simp [addNative, addresses]
    | form title fields =>
      exact g.addresses_push (.form title (fields.map FormField.label))
        (title ++ " (open in the app to submit)")
    | text | narration | selection | dashboard | report | diff => exact g.addresses_push _ _
    | _ => simp [addNative]

theorem addresses_foldl (isAllowedLink : String → Bool) (components : List Component) :
    (components.foldl (add isAllowedLink) g).addresses =
      g.addresses ++ components.flatMap Email.addresses := by
  induction components generalizing g with
  | nil => simp
  | cons c rest ih =>
    rw [List.foldl_cons, ih, addresses_add, List.flatMap_cons, List.append_assoc]

end Gathered

theorem addresses_gatherAll (isAllowedLink : String → Bool) (surface : Surface) :
    ((gatherAll isAllowedLink surface).html.flatMap Block.anchors).map Anchor.address =
      surface.components.flatMap addresses := by
  have all := Gathered.addresses_foldl {} isAllowedLink surface.components
  obtain ⟨same, none⟩ :=
    (surface.components.foldl (Gathered.add isAllowedLink) {}).addresses_flush
  rw [← same, ← gatherAll, Gathered.addresses] at all
  have no : (gatherAll isAllowedLink surface).pending = [] := none
  rw [no, List.map_nil, List.append_nil] at all
  exact all

theorem harmless_emailOf (surface : Surface) (g : Gathered) :
    Harmless (emailOf surface g).html ↔
      (((g.html.flatMap Block.anchors).take (addressesKept g.html)).all
          fun a => allowedAddress a.address) = true ∧
        (openAddress (cutPlace g.html)).all allowedHref = true := by
  have shown {front : List Anchor} (cut : front <+: g.html.flatMap Block.anchors) :
      (g.html.flatMap Block.anchors).take front.length = front :=
    (List.prefix_iff_eq_take.mp cut).symm
  simp only [emailOf, truncateBlocks, addressesKept, cutPlace]
  by_cases fits : totalBytes g.html ≤ emailHtmlMaxBytes
  · simp only [if_pos fits, shown List.prefix_rfl, harmless_wrapDocument_whole, openAddress,
      Option.all_none, and_true]
  · simp only [if_neg fits]
    obtain ⟨k, kept⟩ :=
      Text.fitting_eq_take (fun block : Block => block.html.len) 0 htmlBudget 0 true g.html
    rw [← keptBlocks] at kept
    split
    · rename_i first rest _ blocks
      have front : first.anchorsBefore htmlBudget <+: g.html.flatMap Block.anchors := by
        rw [blocks, List.flatMap_cons]
        exact (anchorsBefore_isPrefix htmlBudget first).trans (List.prefix_append _ _)
      rw [shown front, Harmless, wrapDocument, calm_documentHead, Body.html, fine_append,
        fine_clip_block,
        fine_documentEnd (Place.quoted_after (show Place.text.Quoted from trivial) _),
        Bool.and_eq_true]
    · have front : (keptBlocks g.html).flatMap Block.anchors <+: g.html.flatMap Block.anchors := by
        nth_rewrite 2 [← List.take_append_drop k g.html]
        rw [kept, List.flatMap_append]
        exact List.prefix_append _ _
      simp only [shown front, harmless_wrapDocument_whole, openAddress, Option.all_none, and_true]

/-- The mail of a surface has no other links than allowed ones exactly when its buttons
and sources were given allowed addresses, as far as these end before the document is cut.
An address that is open at the cut must be allowed together with the markup it runs
into. -/
theorem email_links_allowed_iff (isAllowedLink : String → Bool) (surface : Surface) :
    (∀ email, render isAllowedLink surface = .ok email → Harmless email.html) ↔
      let blocks := (gatherAll isAllowedLink surface).html
      ((surface.components.flatMap addresses).take
          (addressesKept blocks)).all allowedAddress = true ∧
        (openAddress (cutPlace blocks)).all allowedHref = true := by
  have given := addresses_gatherAll isAllowedLink surface
  simp only [← given, ← List.map_take, List.all_map]
  rw [render]
  split
  · rename_i empty
    rw [List.isEmpty_iff.mp empty]
    exact iff_of_true (fun email failed => by cases failed) (by decide)
  · have same := harmless_emailOf surface (gatherAll isAllowedLink surface)
    constructor
    · intro all
      exact same.mp (all _ rfl)
    · intro harmless email rendered
      cases rendered
      exact same.mpr harmless

/-- A source that is a script, and a button whose address only begins like one. -/
def trap : Surface where
  components := [.sources [⟨"Docs", "javascript:alert(1)"⟩],
    .button "Open" "open" .null none (some "httpx:") false]

theorem script_is_linked :
    ∃ email, render (fun _ => false) trap = .ok email ∧ ¬ Harmless email.html := by
  refine ⟨emailOf trap (gatherAll (fun _ => false) trap), rfl, fun harmless => ?_⟩
  have given := (harmless_emailOf _ _).mp harmless
  exact absurd given (by decide +kernel)

end Triton.Email
