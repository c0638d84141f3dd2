import FlowPilot.Pattern.Url
import Mathlib.Data.List.Basic

/-!
# The language of a glob

A glob says how a text is cut into spans, one for each of its pieces. The matcher follows all ways
to cut the text at once, so it finds one whenever there is one.

## Main definitions

* `Glob.Describes`: the texts that a glob describes when it is read from left to right.
* `Glob.Piece.Covers`, `Glob.Covers`: the spans that a piece stands for, and the texts made of them.

## Main statements

* `Glob.matchesText_iff`: what the matcher accepts.
* `Glob.describes_iff`: the language of a glob is made of the spans of its pieces.
-/

namespace FlowPilot.Glob

/-! ### Spans -/

/-- The spans that a piece stands for. -/
def Piece.Covers : Piece → List Char → Prop
  | literal c, span => span = [c]
  | anything, span => '\n' ∉ span
  | segment, span => '/' ∉ span

/-- The texts that are made of spans of the pieces, in order. -/
def Covers : Glob → List Char → Prop
  | [], text => text = []
  | p :: g, text => ∃ span rest, text = span ++ rest ∧ p.Covers span ∧ Covers g rest

namespace Piece

/-- A piece that stands for any number of characters. -/
def IsWild : Piece → Prop
  | literal _ => False
  | _ => True

variable {p : Piece} {c : Char} {cs span rest : List Char}

theorem covers_nil (h : p.IsWild) : p.Covers [] := by
  cases p with
  | literal c => exact absurd h id
  | _ => exact List.not_mem_nil

theorem covers_cons_iff (h : p.IsWild) :
    p.Covers (c :: span) ↔ p.spans c = true ∧ p.Covers span := by
  have hlacks (a : Char) : a ∉ c :: span ↔ (c != a) = true ∧ a ∉ span := by
    rw [List.mem_cons, not_or, bne_iff_ne, ne_comm]
  cases p with
  | anything => exact hlacks '\n'
  | segment => exact hlacks '/'
  | literal c => exact absurd h id

theorem rests_cons (h : p.IsWild) :
    p.rests (c :: cs) = (c :: cs) :: if p.spans c then p.rests cs else [] := by
  cases p with
  | literal c => exact absurd h id
  | _ => rfl

/-- A rest of a text is left exactly if the piece stands for what is before it. -/
theorem mem_rests_of_isWild (h : p.IsWild) (text : List Char) :
    rest ∈ p.rests text ↔ ∃ span, text = span ++ rest ∧ p.Covers span := by
  -- The induction is on the text: a span is empty or takes the first character along.
  induction text with
  | nil =>
    have hrests : p.rests [] = [[]] := by
      cases p with
      | literal c => exact absurd h id
      | _ => rfl
    rw [hrests, List.mem_singleton]
    constructor
    · rintro rfl
      exact ⟨[], rfl, covers_nil h⟩
    · rintro ⟨span, htext, -⟩
      exact (List.append_eq_nil_iff.mp htext.symm).2
  | cons c cs ih =>
    rw [rests_cons h, List.mem_cons]
    constructor
    · rintro (rfl | hrest)
      · exact ⟨[], rfl, covers_nil h⟩
      · by_cases hc : p.spans c = true
        · rw [if_pos hc] at hrest
          obtain ⟨span, rfl, hspan⟩ := ih.mp hrest
          exact ⟨c :: span, rfl, (covers_cons_iff h).mpr ⟨hc, hspan⟩⟩
        · rw [if_neg hc] at hrest
          exact absurd hrest List.not_mem_nil
    · rintro ⟨span, htext, hspan⟩
      cases span with
      | nil => exact .inl htext.symm
      | cons d span =>
        obtain ⟨rfl, rfl⟩ := List.cons.inj htext
        obtain ⟨hc, hspan⟩ := (covers_cons_iff h).mp hspan
        rw [if_pos hc]
        exact .inr (ih.mpr ⟨span, rfl, hspan⟩)

theorem mem_rests (text : List Char) :
    rest ∈ p.rests text ↔ ∃ span, text = span ++ rest ∧ p.Covers span := by
  cases p with
  | anything | segment => exact mem_rests_of_isWild (by trivial) text
  | literal c =>
    cases text with
    | nil => simp [rests, Covers]
    | cons d cs =>
      by_cases hd : d = c
      · subst hd
        simp [rests, Covers, eq_comm]
      · simp [rests, Covers, hd]

end Piece

/-! ### The matcher -/

theorem matchesAny_iff (g : Glob) :
    ∀ texts, matchesAny g texts = true ↔ ∃ text ∈ texts, g.Covers text := by
  induction g with
  | nil => simp [matchesAny, Covers]
  | cons p g ih =>
    intro texts
    rw [matchesAny, ih]
    simp only [List.mem_eraseDups, List.mem_flatMap, Piece.mem_rests, Covers]
    constructor
    · rintro ⟨rest, ⟨text, htext, span, rfl, hspan⟩, hrest⟩
      exact ⟨_, htext, span, rest, rfl, hspan, hrest⟩
    · rintro ⟨text, htext, span, rest, rfl, hspan, hrest⟩
      exact ⟨rest, ⟨_, htext, span, rfl, hspan⟩, hrest⟩

/-- The matcher accepts the texts that are made of spans of the pieces. -/
theorem matchesText_iff (g : Glob) (s : String) : g.matchesText s = true ↔ g.Covers s.toList := by
  rw [matchesText, matchesAny_iff]
  simp

/-! ### The language -/

/-- The texts that a glob describes when it is read from left to right: two stars stand for any
text, a star that is left for any text without a slash, every other character for itself. -/
inductive Describes : List Char → List Char → Prop
  | done : Describes [] []
  | stars {glob span rest : List Char} (h : Describes glob rest) :
      Describes ('*' :: '*' :: glob) (span ++ rest)
  | star {glob span rest : List Char} (hsingle : glob.head? ≠ some '*') (hspan : '/' ∉ span)
      (h : Describes glob rest) : Describes ('*' :: glob) (span ++ rest)
  | itself {c : Char} {glob rest : List Char} (hc : c ≠ '*') (h : Describes glob rest) :
      Describes (c :: glob) (c :: rest)

theorem piecesOf_star {glob : List Char} (h : glob.head? ≠ some '*') :
    piecesOf ('*' :: glob) = .segment :: piecesOf glob := by
  cases glob with
  | nil => rfl
  | cons c glob =>
    have hc : c ≠ '*' := by simpa using h
    simp [piecesOf, hc]

theorem piecesOf_itself {c : Char} {glob : List Char} (h : c ≠ '*') :
    piecesOf (c :: glob) = .literal c :: piecesOf glob := by
  simp [piecesOf, h]

/-- In a text without line breaks the language of a glob is made of the spans of its pieces. -/
theorem describes_iff {glob text : List Char} (hline : '\n' ∉ text) :
    Describes glob text ↔ Covers (piecesOf glob) text := by
  have hparts {span rest : List Char} (h : '\n' ∉ span ++ rest) : '\n' ∉ span ∧ '\n' ∉ rest := by
    rwa [List.mem_append, not_or] at h
  -- Forwards by induction on the derivation, backwards along the reading of the glob, whose cases
  -- exclude each other as the rules do.
  constructor
  · intro h
    induction h with
    | done => rfl
    | stars _ ih => exact ⟨_, _, rfl, (hparts hline).1, ih (hparts hline).2⟩
    | star hsingle hspan _ ih =>
      rw [piecesOf_star hsingle]
      exact ⟨_, _, rfl, hspan, ih (hparts hline).2⟩
    | @itself c glob rest hc _ ih =>
      rw [piecesOf_itself hc]
      exact ⟨[c], rest, rfl, rfl, ih (List.not_mem_of_not_mem_cons hline)⟩
  · fun_induction piecesOf glob generalizing text with
    | case1 glob ih =>
      rintro ⟨span, rest, rfl, -, hrest⟩
      exact .stars (ih (hparts hline).2 hrest)
    | case2 glob hsingle ih =>
      rintro ⟨span, rest, rfl, hspan, hrest⟩
      refine .star ?_ hspan (ih (hparts hline).2 hrest)
      intro hstar
      obtain ⟨rest, rfl⟩ := List.head?_eq_some_iff.mp hstar
      exact hsingle rest rfl
    | case3 c glob hstars hstar ih =>
      rintro ⟨span, rest, rfl, rfl, hrest⟩
      exact .itself hstar (ih (hparts hline).2 hrest)
    | case4 =>
      rintro rfl
      exact .done

end FlowPilot.Glob
