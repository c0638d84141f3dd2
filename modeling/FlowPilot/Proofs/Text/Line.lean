import FlowPilot.Json.Printer
import FlowPilot.Proofs.Number.Reading
import FlowPilot.Text.Quoted

/-!
# Texts on one line

Joined texts are on one line if each of them is. Numbers, quoted texts and values in their compact
form always are, since line breaks in them are escaped.

## Main definitions

* `Text.IsLine`: a text without line breaks.

## Main statements

* `Text.isLine_append`, `Text.isLine_intercalate`: joined texts.
* `Text.isLine_quotedList`: quoted texts.
* `Json.isLine_compact`: values in their compact form.
-/

namespace FlowPilot

namespace Text

variable {s t sep : String} {c : Char}

/-- A character that begins a new line. -/
def breaksLine (c : Char) : Bool := c == '\n' || c == '\r'

/-- A text without line breaks. -/
def IsLine (s : String) : Prop := ∀ c ∈ s.toList, breaksLine c = false

instance (s : String) : Decidable (IsLine s) :=
  List.decidableBAll (breaksLine · = false) s.toList

theorem breaksLine_eq_false_iff : breaksLine c = false ↔ c ≠ '\n' ∧ c ≠ '\r' := by
  simp [breaksLine]

@[simp]
theorem isLine_append : IsLine (s ++ t) ↔ IsLine s ∧ IsLine t := by
  simp only [IsLine, String.toList_append, List.forall_mem_append]

theorem isLine_intercalate (hsep : IsLine sep) (texts : List String) :
    IsLine (sep.intercalate texts) ↔ ∀ s ∈ texts, IsLine s := by
  induction texts with
  | nil => simp +decide
  | cons s texts ih =>
    cases texts with
    | nil => simp
    | cons t texts =>
      rw [String.intercalate_cons_cons, isLine_append, isLine_append, ih, and_iff_left hsep]
      exact List.forall_mem_cons.symm

/-- Whether characters begin new lines is found by looking at each of them. -/
theorem breaksLine_of_mem {cs : List Char} (h : (cs.all fun c => !breaksLine c) = true)
    (hc : c ∈ cs) : breaksLine c = false := by
  simpa using List.all_eq_true.mp h c hc

/-- What stands between two characters that begin no new line. -/
theorem breaksLine_of_mem_between {opening closing : Char} {cs : List Char}
    (hopening : breaksLine opening = false) (hclosing : breaksLine closing = false)
    (h : ∀ {c : Char}, c ∈ cs → breaksLine c = false)
    (hc : c ∈ opening :: cs ++ [closing]) : breaksLine c = false := by
  simp only [List.cons_append, List.mem_cons, List.mem_append, List.not_mem_nil, or_false] at hc
  rcases hc with rfl | hc | rfl
  · exact hopening
  · exact h hc
  · exact hclosing

/-! ### Digits -/

theorem breaksLine_of_isNumberChar (h : isNumberChar c = true) : breaksLine c = false := by
  refine breaksLine_eq_false_iff.mpr ⟨?_, ?_⟩ <;> rintro rfl <;> exact absurd h (by decide)

theorem breaksLine_of_mem_toDigits {base n : Nat} (hbase : 1 < base) (hle : base ≤ 16)
    (hc : c ∈ Nat.toDigits base n) : breaksLine c = false := by
  have hdigit : ∀ n < 16, breaksLine (Nat.digitChar n) = false := by decide
  induction n using Nat.strongRecOn with
  | ind n ih =>
    rcases Nat.lt_or_ge n base with hlt | hge
    · rw [Nat.toDigits_of_lt_base hlt, List.mem_singleton] at hc
      exact hc ▸ hdigit n (by omega)
    · rw [Nat.toDigits_of_base_le hbase hge, List.mem_append, List.mem_singleton] at hc
      -- the digits of the quotient, and the last digit
      rcases hc with hc | rfl
      · exact ih (n / base) (Nat.div_lt_self (by omega) hbase) hc
      · exact hdigit _ ((Nat.mod_lt n (by omega)).trans_le hle)

@[simp]
theorem isLine_repr (n : Nat) : IsLine n.repr := by
  intro c hc
  rw [Nat.repr_eq_ofList_toDigits, String.toList_ofList] at hc
  exact breaksLine_of_mem_toDigits (by decide) (by decide) hc

/-! ### Quoted texts -/

theorem breaksLine_of_mem_quotedChar {x : Char} (h : x ∈ quotedChar c) : breaksLine x = false := by
  unfold quotedChar at h
  split at h
  case h_7 hnewline hreturn _ _ =>
    have hself : breaksLine c = false := breaksLine_eq_false_iff.mpr ⟨hnewline, hreturn⟩
    split at h
    · exact List.mem_singleton.mp h ▸ hself
    · split at h
      · simp only [List.cons_append, List.nil_append, List.mem_cons, List.mem_append,
          List.not_mem_nil, or_false] at h
        rcases h with rfl | rfl | rfl | hhex | rfl
        case inr.inr.inr.inl => exact breaksLine_of_mem_toDigits (by decide) le_rfl hhex
        all_goals decide
      · exact List.mem_singleton.mp h ▸ hself
  all_goals exact breaksLine_of_mem (by decide) h

@[simp]
theorem isLine_quoted (s : String) : IsLine (quoted s) := by
  intro c hc
  rw [quoted, String.toList_ofList] at hc
  refine breaksLine_of_mem_between (by decide) (by decide) (fun h => ?_) hc
  obtain ⟨_, -, h⟩ := List.mem_flatMap.mp h
  exact breaksLine_of_mem_quotedChar h

@[simp]
theorem isLine_quotedList (items : List String) : IsLine (quotedList items) := by
  have hcomma : IsLine ", " := by decide
  simp +decide [quotedList, isLine_intercalate hcomma]

end Text

/-! ### Values -/

namespace Json

open Text

variable {c x : Char}

theorem breaksLine_of_mem_escapedChar (h : x ∈ escapedChar c) : breaksLine x = false := by
  unfold escapedChar at h
  split at h
  case h_8 hnewline hreturn _ =>
    split at h
    · next hsmall =>
      have hall : ∀ n < 32,
          ((['\\', 'u', '0', '0'] ++ hexPair n).all fun x => !breaksLine x) = true := by decide
      exact breaksLine_of_mem (hall _ hsmall) h
    · exact List.mem_singleton.mp h ▸ breaksLine_eq_false_iff.mpr ⟨hnewline, hreturn⟩
  all_goals exact breaksLine_of_mem (by decide) h

theorem breaksLine_of_mem_stringText {s : String} (h : c ∈ stringText s) :
    breaksLine c = false := by
  refine breaksLine_of_mem_between (by decide) (by decide) (fun h => ?_) h
  obtain ⟨_, -, h⟩ := List.mem_flatMap.mp h
  exact breaksLine_of_mem_escapedChar h

theorem Number.isLine_toText (n : Number) : IsLine n.toText := by
  intro c hc
  cases n with
  | int i => exact breaksLine_of_isNumberChar (toString_chars hc)
  | real x =>
    cases x with
    | finite s m e => exact breaksLine_of_isNumberChar (toText_chars hc)
    | infinite s => cases s <;> exact breaksLine_of_mem (by decide) hc
    | undefined => exact breaksLine_of_mem (by decide) hc

theorem breaksLine_of_mem_commaSeparated {pieces : List (List Char)}
    (h : ∀ piece ∈ pieces, ∀ c ∈ piece, breaksLine c = false) (hc : c ∈ commaSeparated pieces) :
    breaksLine c = false := by
  fun_induction commaSeparated pieces with
  | case1 => exact absurd hc List.not_mem_nil
  | case2 piece => exact h piece List.mem_cons_self c hc
  | case3 piece rest _ ih =>
    rcases List.mem_append.mp hc with hc | hc
    · exact h piece List.mem_cons_self c hc
    · rcases List.mem_cons.mp hc with rfl | hc
      · decide
      · exact ih (fun piece hpiece => h piece (List.mem_cons_of_mem _ hpiece)) hc

mutual

/-- Nothing in the compact form of a value begins a new line. -/
theorem breaksLine_of_mem_compactChars :
    ∀ (j : Json) {c : Char}, c ∈ compactChars j → breaksLine c = false
  | null, _, h => by
    rw [compactChars] at h
    exact breaksLine_of_mem (by decide) h
  | bool true, _, h => by
    rw [compactChars] at h
    exact breaksLine_of_mem (by decide) h
  | bool false, _, h => by
    rw [compactChars] at h
    exact breaksLine_of_mem (by decide) h
  | number n, _, h => n.isLine_toText _ (by rwa [compactChars] at h)
  | text s, _, h => breaksLine_of_mem_stringText (by rwa [compactChars] at h)
  | array items, _, h => by
    rw [compactChars] at h
    exact breaksLine_of_mem_between (by decide) (by decide)
      (breaksLine_of_mem_commaSeparated (breaksLine_of_mem_compactItems items)) h
  | object members, _, h => by
    rw [compactChars] at h
    exact breaksLine_of_mem_between (by decide) (by decide)
      (breaksLine_of_mem_commaSeparated (breaksLine_of_mem_compactMembers members)) h

theorem breaksLine_of_mem_compactItems :
    ∀ (items : List Json), ∀ piece ∈ compactItems items, ∀ c ∈ piece, breaksLine c = false
  | [], _, h => absurd h List.not_mem_nil
  | item :: rest, piece, h => by
    rcases List.mem_cons.mp h with rfl | h
    · exact fun c => breaksLine_of_mem_compactChars item
    · exact breaksLine_of_mem_compactItems rest piece h

theorem breaksLine_of_mem_compactMembers :
    ∀ (members : Members), ∀ piece ∈ compactMembers members, ∀ c ∈ piece, breaksLine c = false
  | [], _, h => absurd h List.not_mem_nil
  | (key, value) :: rest, piece, h => by
    rcases List.mem_cons.mp h with rfl | h
    · intro c hc
      rcases List.mem_append.mp hc with hc | hc
      · exact breaksLine_of_mem_stringText hc
      · rcases List.mem_cons.mp hc with rfl | hc
        · decide
        · exact breaksLine_of_mem_compactChars value hc
    · exact breaksLine_of_mem_compactMembers rest piece h

end

theorem isLine_compact (j : Json) : IsLine j.compact := by
  intro c hc
  rw [compact, String.toList_ofList] at hc
  exact breaksLine_of_mem_compactChars j hc

end Json

end FlowPilot
