import FlowPilot.Proofs.Json.Places
import FlowPilot.Proofs.Template.Fill
import Mathlib.Data.List.TakeWhile

/-!
# Templates in segments

A template that is written as plain texts and placeholders, in any order, is filled segment by
segment: plain texts stay as they are, and the text of a variable takes the place of each
placeholder, whatever that text looks like. In a JSON value this happens to every text, and nothing
else changes.

## Main definitions

* `Template.Segment`: a plain text, or a placeholder with blanks around its key.
* `Template.written`: the template that consists of some segments.
* `Template.Segment.filled`: what a segment becomes.

## Main statements

* `Template.pieces_written`: how a template in segments is read.
* `Bindings.fill_written`: how it is filled, in any place of a JSON value.
-/

namespace FlowPilot

namespace Template

/-! ### Segments -/

/-- A text without braces. -/
structure PlainText where
  chars : List Char
  no_brace : ∀ c ∈ chars, c ≠ '\x7b' ∧ c ≠ '\x7d'

/-- Some blanks, or none. -/
structure Blanks where
  chars : List Char
  blank : ∀ c ∈ chars, Text.isBlank c = true

/-- The key of a placeholder. -/
structure Key where
  chars : List Char
  ne_nil : chars ≠ []
  key_char : ∀ c ∈ chars, isKeyChar c = true

/-- The variable that a key names. -/
def Key.name (key : Key) : String := String.ofList key.chars

/-- A part of a template. -/
inductive Segment
  | plain (text : PlainText)
  | placeholder (left : Blanks) (key : Key) (right : Blanks)

/-- How a segment is written. -/
def Segment.written : Segment → List Char
  | plain text => text.chars
  | placeholder left key right =>
    '\x7b' :: '\x7b' :: (left.chars ++ (key.chars ++ (right.chars ++ ['\x7d', '\x7d'])))

/-- The template that consists of some segments. -/
def written (segments : List Segment) : String := String.ofList (segments.flatMap Segment.written)

/-- How a segment is read. -/
def Segment.pieces : Segment → List Piece
  | plain text => text.chars.map .literal
  | placeholder _ key _ => [.hole key.name]

/-- What a segment becomes. -/
def Segment.filled (b : Bindings) : Segment → List Char
  | plain text => text.chars
  | placeholder _ key _ => ((b.get? key.name).getD "").toList

/-! ### Reading a placeholder -/

theorem isBlank_eq_false_of_isKeyChar {c : Char} (h : isKeyChar c = true) :
    Text.isBlank c = false := by
  have hblanks : ∀ n ∈ [0x9, 0xA, 0xB, 0xC, 0xD, 0x20, 0x85, 0xA0, 0x1680, 0x2000, 0x2001, 0x2002,
      0x2003, 0x2004, 0x2005, 0x2006, 0x2007, 0x2008, 0x2009, 0x200A, 0x2028, 0x2029, 0x202F,
      0x205F, 0x3000], isKeyChar (Char.ofNat n) = false := by
    decide +kernel
  by_contra hblank
  have hkey := hblanks c.toNat (by
    simp [Text.isBlank] at hblank ⊢
    omega)
  rw [Char.ofNat_toNat, h] at hkey
  exact Bool.noConfusion hkey

/-- A run of characters of a class ends where another character comes. -/
theorem split_run {p : Char → Bool} {run : List Char} (hrun : ∀ c ∈ run, p c = true)
    {c : Char} (hc : p c = false) (rest : List Char) :
    (run ++ c :: rest).takeWhile p = run ∧ (run ++ c :: rest).dropWhile p = c :: rest := by
  rw [List.takeWhile_append_of_pos hrun, List.dropWhile_append_of_pos hrun,
    List.takeWhile_cons_of_neg (by simp [hc]), List.dropWhile_cons_of_neg (by simp [hc]),
    List.append_nil]
  exact ⟨rfl, rfl⟩

/-- A key ends where its blanks or the closing braces come. -/
theorem split_key (key : Key) (right : Blanks) (rest : List Char) :
    let tail := right.chars ++ '\x7d' :: '\x7d' :: rest
    (key.chars ++ tail).takeWhile isKeyChar = key.chars ∧
      (key.chars ++ tail).dropWhile isKeyChar = tail := by
  have hbrace : isKeyChar '\x7d' = false := by decide +kernel
  obtain ⟨blanks, hblanks⟩ := right
  cases blanks with
  | nil => exact split_run key.key_char hbrace _
  | cons c blanks =>
    refine split_run key.key_char ?_ _
    have hc := hblanks c List.mem_cons_self
    by_contra hkey
    rw [isBlank_eq_false_of_isKeyChar (by simpa using hkey)] at hc
    exact Bool.noConfusion hc

/-- A written placeholder is found, whatever follows it. -/
theorem hole?_placeholder (left : Blanks) (key : Key) (right : Blanks) (rest : List Char) :
    hole? ('\x7b' :: '\x7b' ::
        (left.chars ++ (key.chars ++ (right.chars ++ '\x7d' :: '\x7d' :: rest)))) =
      some (key.name, rest) := by
  obtain ⟨htaken, hdropped⟩ := split_key key right rest
  have hleft : (left.chars ++ (key.chars ++ (right.chars ++ '\x7d' :: '\x7d' :: rest))).dropWhile
      Text.isBlank = key.chars ++ (right.chars ++ '\x7d' :: '\x7d' :: rest) := by
    obtain ⟨c, chars, hchars⟩ := List.exists_cons_of_ne_nil key.ne_nil
    have hc := isBlank_eq_false_of_isKeyChar (key.key_char c (by simp [hchars]))
    rw [hchars]
    exact (split_run left.blank hc _).2
  have hright := (split_run right.blank (by decide : Text.isBlank '\x7d' = false)
    ('\x7d' :: rest)).2
  have hkey : key.chars.isEmpty = false := by simpa using key.ne_nil
  simp only [hole?, hleft, htaken, hdropped, hright, hkey, Bool.false_eq_true, if_false, Key.name]

theorem hole?_of_ne_brace {c : Char} (hc : c ≠ '\x7b') (cs : List Char) :
    hole? (c :: cs) = none := by
  unfold hole?
  split
  · rename_i heq
    exact absurd (List.cons.inj heq).1 hc
  · rfl

/-! ### Reading templates -/

/-- What belongs to a placeholder is not read again. -/
theorem piecesAfter_skip (skipped rest : List Char) :
    piecesAfter ((skipped ++ rest).length - rest.length) (skipped ++ rest) =
      piecesAfter 0 rest := by
  rw [List.length_append, Nat.add_sub_cancel]
  induction skipped with
  | nil => rfl
  | cons c skipped ih => exact ih

/-- Characters that are no braces stay. -/
theorem piecesAfter_plain (chars rest : List Char) (hchars : ∀ c ∈ chars, c ≠ '\x7b') :
    piecesAfter 0 (chars ++ rest) = chars.map .literal ++ piecesAfter 0 rest := by
  induction chars with
  | nil => rfl
  | cons c chars ih =>
    have hc := hole?_of_ne_brace (hchars c List.mem_cons_self) (chars ++ rest)
    have hrest := ih fun c hc => hchars c (List.mem_cons_of_mem _ hc)
    rw [List.cons_append, piecesAfter, hc, List.map_cons, List.cons_append]
    exact congrArg _ hrest

/-- A segment is read as a whole, whatever follows it. -/
theorem piecesAfter_written (segment : Segment) (rest : List Char) :
    piecesAfter 0 (segment.written ++ rest) = segment.pieces ++ piecesAfter 0 rest := by
  cases segment with
  | plain text => exact piecesAfter_plain _ _ fun c hc => (text.no_brace c hc).1
  | placeholder left key right =>
    let tail := '\x7b' :: (left.chars ++ (key.chars ++ (right.chars ++ ['\x7d', '\x7d'])))
    have hhole : hole? ('\x7b' :: (tail ++ rest)) = some (key.name, rest) := by
      simpa [tail] using hole?_placeholder left key right rest
    show piecesAfter 0 ('\x7b' :: (tail ++ rest)) = _
    rw [piecesAfter, hhole]
    exact congrArg (Piece.hole key.name :: ·) (piecesAfter_skip tail rest)

/-- A template in segments is read segment by segment. -/
theorem pieces_written (segments : List Segment) :
    pieces (written segments) = segments.flatMap Segment.pieces := by
  rw [pieces, written, String.toList_ofList]
  induction segments with
  | nil => rfl
  | cons segment segments ih =>
    rw [List.flatMap_cons, List.flatMap_cons, piecesAfter_written, ih]

end Template

namespace Bindings

open Template

/-- What the pieces of a segment become is what the segment becomes. -/
theorem flatMap_fillPiece (b : Bindings) (segment : Segment) :
    segment.pieces.flatMap b.fillPiece = segment.filled b := by
  cases segment with
  | plain text =>
    rw [Segment.pieces, List.flatMap_map]
    exact List.flatMap_singleton' _
  | placeholder left key right => exact List.append_nil _

/-! ### Filling JSON values -/

theorem behind?_fillJson (b : Bindings) (j : Json) (step : Json.Step) :
    (b.fillJson j).behind? step = (j.behind? step).map b.fillJson := by
  cases step with
  | item i =>
    cases j with
    | array items =>
      show (b.fillItems items)[i]? = (items[i]?).map b.fillJson
      rw [fillItems_eq_map, List.getElem?_map]
    | _ => rfl
  | member key =>
    cases j with
    | object members => exact b.lookup_fillMembers key members
    | _ => rfl

theorem at?_fillJson (b : Bindings) (path : List Json.Step) (j : Json) :
    (b.fillJson j).at? path = (j.at? path).map b.fillJson := by
  induction path generalizing j with
  | nil => rfl
  | cons step path ih =>
    rw [Json.at?, Json.at?, behind?_fillJson]
    cases j.behind? step with
    | none => rfl
    | some inner => exact ih inner

theorem map_fst_fillMembers (b : Bindings) (members : Json.Members) :
    (b.fillMembers members).map Prod.fst = members.map Prod.fst := by
  induction members with
  | nil => rfl
  | cons member rest ih => exact congrArg (member.1 :: ·) ih

/-- What filling makes of a node: it fills texts and nothing else. -/
def fillNode (b : Bindings) : Json.Node → Json.Node
  | .text s => .text (b.fill s)
  | other => other

theorem node_fillJson (b : Bindings) (j : Json) : (b.fillJson j).node = b.fillNode j.node := by
  cases j with
  | array items => exact congrArg Json.Node.array (b.fillItems_length items)
  | object members => exact congrArg Json.Node.object (b.map_fst_fillMembers members)
  | _ => rfl

/-- A template in segments is filled segment by segment: plain texts stay, and the text of a
variable, empty when it has none, takes the place of each placeholder as it is. In a JSON value this
is done to the text in every place. The form of the value, all keys and all other values stay. -/
theorem fill_written (b : Bindings) :
    (∀ segments : List Segment,
      b.fill (written segments) = String.ofList (segments.flatMap (Segment.filled b))) ∧
    ∀ (j : Json) (path : List Json.Step),
      ((b.fillJson j).at? path).map Json.node = ((j.at? path).map Json.node).map b.fillNode := by
  constructor
  · intro segments
    rw [fill, pieces_written, List.flatMap_assoc]
    simp only [flatMap_fillPiece]
  · intro j path
    rw [at?_fillJson, Option.map_map, Option.map_map]
    exact congrArg (Option.map · (j.at? path)) (funext b.node_fillJson)

/-- A text that looks like a placeholder is inserted as it is. -/
example : (⟨[("a", "\x7b\x7bb\x7d\x7d"), ("b", "c")]⟩ : Bindings).fill
    "\x7b\x7b a \x7d\x7d/\x7b\x7bb\x7d\x7d" = "\x7b\x7bb\x7d\x7d/c" := by
  decide +kernel

end Bindings

end FlowPilot
