import FlowPilot.Proofs.Pattern.Glob
import FlowPilot.Proofs.Text.Blank

/-!
# Globs as patterns

A glob can be written as a pattern that is tied to both ends of the text: two stars become any
number of characters without a line break, one star any number of characters without a slash, and
every character that means something in patterns is escaped. The pattern that is read from this text
finds what the matcher of the glob accepts.

## Main definitions

* `Pattern.Stretch`, `Pattern.Leads`: the stretches of a text that a pattern runs through.
* `Glob.patternText`: a glob written as a pattern.
* `Glob.pattern`: the pattern that is read from it.

## Main statements

* `Glob.occursIn_pattern`: the pattern of a glob finds what the glob matches.
* `Glob.ofText?_patternText`: the written glob is read as this pattern.
* `UrlCriterion.ofStep_glob`: a step with a glob waits for the addresses that the glob describes.
-/

namespace FlowPilot

namespace Pattern

/-! ### Where patterns lead -/

/-- Of a text, the stretch from one place to another. -/
def Stretch (text : List Char) (i : Nat) (span : List Char) (j : Nat) : Prop :=
  text.drop i = span ++ text.drop j ∧ j = i + span.length

section Stretch

variable {text span rest : List Char} {c : Char} {i j k : Nat}

theorem Stretch.nil : Stretch text i [] j ↔ j = i := by
  simp only [Stretch, List.nil_append, List.length_nil, Nat.add_zero]
  constructor
  · exact And.right
  · rintro rfl
    exact ⟨rfl, rfl⟩

theorem Stretch.cons :
    Stretch text i (c :: span) j ↔ text[i]? = some c ∧ Stretch text (i + 1) span j := by
  constructor
  · rintro ⟨htext, hj⟩
    have hhead := congrArg List.head? htext
    have htail := congrArg List.tail htext
    rw [List.head?_drop] at hhead
    rw [List.tail_drop] at htail
    exact ⟨hhead, htail, by rw [hj, List.length_cons, Nat.add_right_comm, Nat.add_assoc]⟩
  · rintro ⟨hc, htext, hj⟩
    obtain ⟨hlt, rfl⟩ := List.getElem?_eq_some_iff.mp hc
    refine ⟨?_, by rw [hj, List.length_cons, Nat.add_right_comm, Nat.add_assoc]⟩
    rw [List.drop_eq_getElem_cons hlt, htext, List.cons_append]

theorem Stretch.append :
    Stretch text i (span ++ rest) k ↔ ∃ j, Stretch text i span j ∧ Stretch text j rest k := by
  induction span generalizing i with
  | nil => simp [Stretch.nil]
  | cons c span ih => simp [Stretch.cons, ih, and_assoc]

theorem Stretch.length_le (h : Stretch text i span j) : span.length ≤ text.length := by
  have hlength := congrArg List.length h.1
  simp only [List.length_drop, List.length_append] at hlength
  omega

end Stretch

/-- The stretches of a text that a pattern runs through. -/
def Leads (text : List Char) (p : Pattern) (P : List Char → Prop) : Prop :=
  ∀ places j, j ∈ ends text.toArray p places ↔ ∃ i ∈ places, ∃ span, Stretch text i span j ∧ P span

theorem Leads.congr {text : List Char} {p : Pattern} {P Q : List Char → Prop} (h : Leads text p P)
    (hspans : ∀ span, P span ↔ Q span) : Leads text p Q := by
  intro places j
  simp only [h places j, hspans]

theorem mem_join {places more : List Nat} {j : Nat} :
    j ∈ join places more ↔ j ∈ places ∨ j ∈ more := by
  simp only [join, List.mem_append, List.mem_filter, Bool.not_eq_true', List.contains_eq_mem,
    decide_eq_false_iff_not]
  tauto

/-- A join that is no longer than its first part has all of the second one in the first. -/
theorem subset_of_length_join {places more : List Nat}
    (h : (join places more).length = places.length) : ∀ j ∈ more, j ∈ places := by
  intro j hj
  have hnone : more.filter (!places.contains ·) = [] := by simpa [join] using h
  simpa using List.filter_eq_nil_iff.mp hnone j hj

variable {text : List Char} {set : CharSet}

theorem leads_char (text : List Char) (set : CharSet) :
    Leads text (.char set) fun span => ∃ c, span = [c] ∧ set.contains c = true := by
  intro places j
  simp only [ends, List.mem_map, List.mem_filter, List.getElem?_toArray, Option.any_eq_true]
  constructor
  · rintro ⟨i, ⟨hi, c, htext, hc⟩, rfl⟩
    exact ⟨i, hi, [c], Stretch.cons.mpr ⟨htext, Stretch.nil.mpr rfl⟩, c, rfl, hc⟩
  · rintro ⟨i, hi, _, hspan, c, rfl, hc⟩
    obtain ⟨htext, hrest⟩ := Stretch.cons.mp hspan
    exact ⟨i, ⟨hi, c, htext, hc⟩, (Stretch.nil.mp hrest).symm⟩

/-- A set of places that cannot be left by a character of a set cannot be left by many. -/
theorem mem_of_stretch {places : List Nat}
    (hclosed : ∀ j ∈ ends text.toArray (.char set) places, j ∈ places) {span : List Char} :
    ∀ {i j}, i ∈ places → Stretch text i span j → (∀ c ∈ span, set.contains c = true) →
      j ∈ places := by
  induction span with
  | nil =>
    intro i j hi hspan _
    rwa [Stretch.nil.mp hspan]
  | cons c span ih =>
    intro i j hi hspan hset
    obtain ⟨hc, hspan⟩ := Stretch.cons.mp hspan
    refine ih (hclosed _ ?_) hspan fun d hd => hset d (List.mem_cons_of_mem _ hd)
    exact (leads_char text set places _).mpr
      ⟨i, hi, [c], Stretch.cons.mpr ⟨hc, Stretch.nil.mpr rfl⟩, c, rfl, hset c List.mem_cons_self⟩

/-- Repeated so often at most, a character of a set runs through as many characters of the set. -/
theorem mem_upTo (n : Nat) :
    ∀ places j, j ∈ upTo (ends text.toArray (.char set)) n places ↔
      ∃ i ∈ places, ∃ span, Stretch text i span j ∧ span.length ≤ n ∧
        ∀ c ∈ span, set.contains c = true := by
  induction n with
  | zero =>
    intro places j
    simp [upTo, Stretch.nil]
  | succ n ih =>
    intro places j
    simp only [upTo]
    -- A step that finds nothing new ends the search early: the places are closed under further
    -- steps then.
    split
    · rename_i hlength
      have hclosed := subset_of_length_join hlength
      constructor
      · exact fun hj => ⟨j, hj, [], Stretch.nil.mpr rfl, by simp⟩
      · rintro ⟨i, hi, span, hspan, -, hset⟩
        exact mem_of_stretch hclosed hi hspan hset
    · rw [ih]
      simp only [mem_join, leads_char text set places _]
      constructor
      · rintro ⟨i, hi | ⟨i', hi', _, hstep, c, rfl, hc⟩, span, hspan, hlength, hset⟩
        · exact ⟨i, hi, span, hspan, by omega, hset⟩
        · refine ⟨i', hi', c :: span, Stretch.append.mpr ⟨i, hstep, hspan⟩, ?_, ?_⟩
          · simpa using hlength
          · simpa [hc] using hset
      · rintro ⟨i, hi, span, hspan, hlength, hset⟩
        cases span with
        | nil => exact ⟨i, .inl hi, [], hspan, by simp⟩
        | cons c span =>
          obtain ⟨hc, hspan⟩ := Stretch.cons.mp hspan
          refine ⟨i + 1, .inr ⟨i, hi, [c], Stretch.cons.mpr ⟨hc, Stretch.nil.mpr rfl⟩, c, rfl,
            hset c List.mem_cons_self⟩, span, hspan, by simpa using hlength, fun d hd => ?_⟩
          exact hset d (List.mem_cons_of_mem _ hd)

theorem leads_many (text : List Char) (set : CharSet) :
    Leads text (.times (.char set) 0 none) fun span => ∀ c ∈ span, set.contains c = true := by
  intro places j
  have hends : ends text.toArray (.times (.char set) 0 none) places =
      upTo (ends text.toArray (.char set)) (text.length + 1) places := rfl
  rw [hends, mem_upTo]
  constructor
  · rintro ⟨i, hi, span, hspan, -, hset⟩
    exact ⟨i, hi, span, hspan, hset⟩
  · rintro ⟨i, hi, span, hspan, hset⟩
    exact ⟨i, hi, span, hspan, Nat.le_succ_of_le hspan.length_le, hset⟩

/-- Where patterns are put in front of another one, one after the other, that one leads on from
where they lead, the last of them first. -/
theorem ends_foldl {text : Array Char} {join : Pattern → Pattern → Pattern}
    (hjoin : ∀ rest item places,
      ends text (join rest item) places = ends text rest (ends text item places))
    (items : List Pattern) (places : List Nat) :
    ∀ rest, ends text (items.foldl join rest) places =
      ends text rest (items.foldr (fun item places => ends text item places) places) := by
  induction items with
  | nil => exact fun _ => rfl
  | cons item items ih =>
    intro rest
    rw [List.foldl_cons, ih, hjoin, List.foldr_cons]

/-- The items of an alternative, which come last first, lead where the later ones lead from where
the earlier ones do. -/
theorem ends_sequence (text : Array Char) (items : List (Option Pattern)) (places : List Nat) :
    ends text (Reader.sequence items) places =
      (items.filterMap id).foldr (fun item places => ends text item places) places := by
  refine ends_foldl (fun rest item places => ?_) _ _ .empty
  cases rest <;> rfl

end Pattern

namespace Glob

open Pattern (Stretch Leads Reader readAll)

/-! ### The pattern of a glob -/

/-- The pattern that a piece stands for. -/
def Piece.pattern : Piece → Pattern
  | anything => .times (.char (.complement (.only '\n'))) 0 none
  | segment => .times (.char (.complement (.union .none (.only '/')))) 0 none
  | literal c => .char (.only c)

/-- The items of the pattern of a glob, last first: the pieces between the two ends of the text. -/
def items (g : Glob) : List (Option Pattern) :=
  some (.look .textEnd) :: (g.map fun p => some p.pattern).reverse ++ [some (.look .textStart)]

/-- The pattern of a glob. -/
def pattern (g : Glob) : Pattern := Reader.sequence g.items

theorem contains_only (c d : Char) : (CharSet.only c).contains d = (d == c) := by
  rw [Bool.eq_iff_iff, beq_iff_eq, ← Char.toNat_inj]
  simp only [CharSet.only, CharSet.contains, Text.inRanges, List.any_cons, List.any_nil,
    Bool.or_false, Bool.and_eq_true, decide_eq_true_eq]
  omega

/-- The pattern of a piece runs through the spans that the piece stands for. -/
theorem Piece.leads_pattern (text : List Char) (p : Piece) : Leads text p.pattern p.Covers := by
  have hlacks {set : CharSet} {c : Char} (hset : ∀ d, set.contains d = (d != c))
      (span : List Char) : (∀ d ∈ span, set.contains d = true) ↔ c ∉ span := by
    simp only [hset, bne_iff_ne]
    exact ⟨fun h hc => h c hc rfl, fun h d hd hdc => h (hdc ▸ hd)⟩
  cases p with
  | anything =>
    refine (Pattern.leads_many text _).congr (hlacks fun d => ?_)
    rw [CharSet.contains, contains_only]
    rfl
  | segment =>
    refine (Pattern.leads_many text _).congr (hlacks fun d => ?_)
    rw [CharSet.contains, CharSet.contains, contains_only]
    rfl
  | literal c =>
    refine (Pattern.leads_char text _).congr fun span => ?_
    simp [Covers, contains_only]

/-- The patterns of pieces run through the texts that are made of their spans. -/
theorem mem_foldl_ends (text : List Char) (g : Glob) :
    ∀ places j, j ∈ g.foldl (fun places p => p.pattern.ends text.toArray places) places ↔
      ∃ i ∈ places, ∃ span, Stretch text i span j ∧ g.Covers span := by
  induction g with
  | nil => simp [Covers, Stretch.nil]
  | cons p g ih =>
    intro places j
    rw [List.foldl_cons, ih]
    simp only [p.leads_pattern text places _]
    constructor
    · rintro ⟨i, ⟨i', hi', span, hspan, hcovers⟩, rest, hrest, hcovers'⟩
      exact ⟨i', hi', span ++ rest, Stretch.append.mpr ⟨i, hspan, hrest⟩, span, rest, rfl, hcovers,
        hcovers'⟩
    · rintro ⟨i, hi, _, hspan, span, rest, rfl, hcovers, hcovers'⟩
      obtain ⟨j', hj', hrest⟩ := Stretch.append.mp hspan
      exact ⟨j', ⟨i, hi, span, hj', hcovers⟩, rest, hrest, hcovers'⟩

/-- At the start of a text there is one place. -/
theorem mem_ends_textStart {text : List Char} {i : Nat} :
    i ∈ Pattern.ends text.toArray (.look .textStart) (List.range (text.length + 1)) ↔ i = 0 := by
  simp only [Pattern.ends, Look.holds, List.mem_filter, List.mem_range, List.getElem?_toArray]
  constructor
  · rintro ⟨hi, hstart⟩
    by_contra hne
    rw [if_neg hne, Option.isNone_iff_eq_none, List.getElem?_eq_none_iff] at hstart
    omega
  · rintro rfl
    exact ⟨Nat.succ_pos _, rfl⟩

/-- The end of a text is behind its last character. -/
theorem mem_ends_textEnd {text : List Char} {places : List Nat} {j : Nat} :
    j ∈ Pattern.ends text.toArray (.look .textEnd) places ↔ j ∈ places ∧ text.drop j = [] := by
  simp [Pattern.ends, Look.holds]

/-- The pattern of a glob occurs in the texts that are made of spans of the pieces. -/
theorem occursIn_pattern (g : Glob) (s : String) :
    g.pattern.occursIn s = true ↔ g.Covers s.toList := by
  -- The places go through the conditions at both ends and the pieces between them.
  have hends (text : Array Char) (places : List Nat) : g.pattern.ends text places =
      Pattern.ends text (.look .textEnd) (g.foldl (fun places p => p.pattern.ends text places)
        (Pattern.ends text (.look .textStart) places)) := by
    rw [pattern, items, Pattern.ends_sequence]
    simp [List.filterMap_map, List.foldl_map]
  have hsome : g.pattern.occursIn s = true ↔
      ∃ j, j ∈ g.pattern.ends s.toList.toArray (List.range (s.toList.length + 1)) := by
    rw [Pattern.occursIn, Bool.not_eq_true', List.isEmpty_eq_false_iff_exists_mem]
    rfl
  rw [hsome]
  simp only [hends, mem_ends_textEnd, mem_foldl_ends, mem_ends_textStart, exists_eq_left, Stretch]
  constructor
  · rintro ⟨j, ⟨span, ⟨htext, -⟩, hcovers⟩, hend⟩
    rw [hend, List.append_nil, List.drop_zero] at htext
    exact htext ▸ hcovers
  · intro hcovers
    have hend : s.toList.drop (0 + s.toList.length) = [] := by simp
    exact ⟨_, ⟨s.toList, ⟨by rw [hend, List.append_nil, List.drop_zero], rfl⟩, hcovers⟩, hend⟩

/-! ### The text of the pattern -/

/-- The characters that mean something in patterns. -/
def signs : List Char :=
  ['\\', '.', '+', '*', '?', '(', ')', '|', '[', ']', '\x7b', '\x7d', '^', '$', '#', '&', '-', '~']

/-- A piece written as a pattern. -/
def Piece.signText : Piece → List Char
  | anything => ['.', '*']
  | segment => ['[', '^', '/', ']', '*']
  | literal c => if c ∈ signs then ['\\', c] else [c]

/-- A glob written as a pattern that is tied to both ends of the text. -/
def patternText (g : Glob) : String :=
  String.ofList ('^' :: (g.flatMap Piece.signText ++ ['$']))

/-- In how many steps a written piece is read. -/
def Piece.steps : Piece → Nat
  | literal _ => 1
  | _ => 2

/-- In how many steps a written glob is read. -/
def steps : Glob → Nat
  | [] => 0
  | p :: g => steps g + p.steps

section Reading

variable {r : Reader} {c : Char} {rest : List Char}

theorem escape?_sign (h : c ∈ signs) :
    Pattern.escape? {} (c :: rest) = some (.literal c false, rest) := by
  simp only [signs, List.mem_cons, List.not_mem_nil, or_false] at h
  rcases h with rfl | rfl | rfl | rfl | rfl | rfl | rfl | rfl | rfl | rfl | rfl | rfl | rfl | rfl |
    rfl | rfl | rfl | rfl
  all_goals rfl

theorem step_of_not_sign (hflags : r.flags = {}) (h : c ∉ signs) :
    Pattern.step r c rest = some (r.push (.char (.only c)), rest) := by
  unfold Pattern.step
  split
  all_goals first | exact absurd (by decide) h | skip
  simp [Pattern.literal?, hflags]
  rfl

/-- One item is read, and then what follows it. -/
theorem readAll_of_step {r' : Reader} {cs : List Char} (hflags : r.flags = {})
    (hstep : Pattern.step r c cs = some (r', rest)) (fuel : Nat) :
    readAll (fuel + 1) r (c :: cs) = readAll fuel r' rest := by
  rw [readAll, hflags]
  show (Pattern.step r c cs).bind _ = _
  rw [hstep, Option.bind_some]

/-- A written piece is read as its pattern, if no question mark follows it. -/
theorem readAll_signText (hflags : r.flags = {}) (p : Piece) (hrest : rest.head? ≠ some '?')
    (fuel : Nat) :
    readAll (fuel + p.steps) r (p.signText ++ rest) = readAll fuel (r.push p.pattern) rest := by
  have hdrop : Pattern.dropReluctance rest = rest := by
    unfold Pattern.dropReluctance
    split
    · exact absurd rfl hrest
    · rfl
  -- The star behind either class is read as a repetition, since it is not made reluctant.
  have hstar (set : CharSet) : Pattern.step (r.push (.char set)) '*' rest =
      some (r.push (.times (.char set) 0 none), rest) := by
    simp only [Pattern.step, hdrop]
    rfl
  cases p with
  | anything =>
    have hdot : Pattern.step r '.' ('*' :: rest) =
        some (r.push (.char (.complement (.only '\n'))), '*' :: rest) := by
      simp only [Pattern.step, hflags]
      rfl
    show readAll (fuel + 1 + 1) r ('.' :: '*' :: rest) = _
    rw [readAll_of_step hflags hdot]
    exact readAll_of_step (r := r.push _) hflags (hstar _) fuel
  | segment =>
    have hbracket : Pattern.step r '[' ('^' :: '/' :: ']' :: '*' :: rest) =
        some (r.push (.char (.complement (.union .none (.only '/')))), '*' :: rest) := by
      simp only [Pattern.step, hflags]
      rfl
    show readAll (fuel + 1 + 1) r ('[' :: '^' :: '/' :: ']' :: '*' :: rest) = _
    rw [readAll_of_step hflags hbracket]
    exact readAll_of_step (r := r.push _) hflags (hstar _) fuel
  | literal c =>
    by_cases hsign : c ∈ signs
    · have hescape : Pattern.step r '\\' (c :: rest) = some (r.push (.char (.only c)), rest) := by
        simp only [Pattern.step, hflags, escape?_sign hsign]
        simp [Pattern.literal?]
        rfl
      rw [Piece.signText, if_pos hsign]
      exact readAll_of_step hflags hescape fuel
    · rw [Piece.signText, if_neg hsign]
      exact readAll_of_step hflags (step_of_not_sign hflags hsign) fuel

theorem head?_signText (p : Piece) (rest : List Char) :
    (p.signText ++ rest).head? ≠ some '?' := by
  cases p with
  | literal c =>
    rw [Piece.signText]
    split
    · simp
    · rename_i hsign
      simp only [List.cons_append, List.head?_cons, ne_eq, Option.some.injEq]
      rintro rfl
      exact hsign (by decide)
  | _ => simp [Piece.signText]

/-- The written pieces are read as their patterns, the last one first in the reader. -/
theorem readAll_flatMap (g : Glob) :
    ∀ {r : Reader}, r.flags = {} → ∀ fuel,
      readAll (fuel + steps g) r (g.flatMap Piece.signText ++ ['$']) =
        readAll fuel { r with items := (g.map fun p => some p.pattern).reverse ++ r.items }
          ['$'] := by
  induction g with
  | nil => exact fun _ _ => rfl
  | cons p g ih =>
    intro r hflags fuel
    have hnext : (g.flatMap Piece.signText ++ ['$']).head? ≠ some '?' := by
      cases g with
      | nil => simp
      | cons p' g =>
        rw [List.flatMap_cons, List.append_assoc]
        exact head?_signText p' _
    rw [List.flatMap_cons, List.append_assoc, steps, ← Nat.add_assoc,
      readAll_signText hflags p hnext, ih (r := r.push p.pattern) hflags]
    simp [Reader.push]

end Reading

/-- A step reads at least one character. -/
theorem steps_le (g : Glob) : steps g ≤ (g.flatMap Piece.signText).length := by
  have hpiece (p : Piece) : p.steps ≤ p.signText.length := by
    cases p with
    | literal c =>
      rw [Piece.signText]
      split <;> simp [Piece.steps]
    | _ => simp [Piece.steps, Piece.signText]
  induction g with
  | nil => exact Nat.le_refl 0
  | cons p g ih =>
    rw [steps, List.flatMap_cons, List.length_append, Nat.add_comm]
    exact Nat.add_le_add (hpiece p) ih

/-- The written glob is read as its pattern. -/
theorem ofText?_patternText (g : Glob) :
    Pattern.ofText? g.patternText =
      if Pattern.weight g.pattern ≤ Pattern.maxWeight then some g.pattern else none := by
  obtain ⟨extra, hextra⟩ := Nat.exists_eq_add_of_le (steps_le g)
  have hfuel : ('^' :: (g.flatMap Piece.signText ++ ['$'])).length + 1 =
      extra + 1 + 1 + steps g + 1 := by
    simp only [List.length_cons, List.length_append, List.length_nil, hextra]
    omega
  have hstart : Pattern.step Reader.start '^' (g.flatMap Piece.signText ++ ['$']) =
      some (Reader.start.push (.look .textStart), g.flatMap Piece.signText ++ ['$']) := rfl
  have hread : readAll (('^' :: (g.flatMap Piece.signText ++ ['$'])).length + 1) Reader.start
      ('^' :: (g.flatMap Piece.signText ++ ['$'])) =
        some { Reader.start with items := g.items } := by
    rw [hfuel, readAll_of_step rfl hstart, readAll_flatMap g rfl]
    rfl
  have hgroup : Reader.group { Reader.start with items := g.items } = g.pattern := rfl
  rw [Pattern.ofText?, patternText, String.toList_ofList]
  simp only [hread, Option.bind_eq_bind, Option.bind_some, hgroup]
  simp [Reader.start]

end Glob

namespace UrlCriterion

theorem ofStep_of_star (w : Wording) {s : Step.WaitForUrl} {raw : String} (hurl : s.url = some raw)
    (hstar : '*' ∈ (Text.trim raw).toList) :
    ofStep w s = .ok (.glob (.ofText (Text.trim raw))) := by
  have hblank : Text.isBlankText raw = false := by
    rw [Text.trim, String.toList_ofList] at hstar
    exact Text.isBlankText_eq_false_iff.mpr ⟨'*', Text.mem_of_mem_dropEndsWhile hstar, by decide⟩
  have htrimmed : s.url.bind Text.trimmed? = some (Text.trim raw) := by
    rw [hurl, Option.bind_some, Text.trimmed?_of_not_blank hblank]
  rw [ofStep, htrimmed]
  simp [hstar]

/-- A step whose address holds a star waits for the addresses that the glob describes, from their
first to their last character. The glob can always be used. It accepts what the pattern finds that
is read from its written form, in which no character of the glob means anything but itself. -/
theorem ofStep_glob (w : Wording) (s : Step.WaitForUrl) (raw : String)
    (hurl : s.url = some raw) (hstar : '*' ∈ (Text.trim raw).toList) :
    let g := Glob.ofText (Text.trim raw)
    ofStep w s = .ok (.glob g) ∧
      (∀ url : String, '\n' ∉ url.toList →
        ((glob g).accepts url = true ↔ Glob.Describes (Text.trim raw).toList url.toList)) ∧
      (∀ url, (glob g).accepts url = g.pattern.occursIn url) ∧
      Pattern.ofText? g.patternText =
        if Pattern.weight g.pattern ≤ Pattern.maxWeight then some g.pattern else none := by
  intro g
  have haccepts (url : String) : (glob g).accepts url = true ↔ g.Covers url.toList :=
    g.matchesText_iff url
  refine ⟨ofStep_of_star w hurl hstar, fun url hline => ?_, fun url => ?_, g.ofText?_patternText⟩
  · rw [haccepts, Glob.describes_iff hline]
    rfl
  · rw [Bool.eq_iff_iff, haccepts, g.occursIn_pattern]

/-- Three stars are two and one: any folders, and then a name of which only the ending is said. The
point, the plus and the question mark mean themselves. -/
theorem ofStep_three_stars :
    let glob := "https://sri/a+b/***.xml?"
    let s : Step.WaitForUrl := ⟨some " https://sri/a+b/***.xml? ", none, none⟩
    ∃ criterion, ofStep .brief s = .ok criterion ∧
      criterion.accepts "https://sri/a+b/2024/05/f.xml?" = true ∧
      Glob.Describes glob.toList "https://sri/a+b/2024/05/f.xml?".toList ∧
      criterion.accepts "https://sri/aab/2024/05/fxml" = false ∧
      ¬Glob.Describes glob.toList "https://sri/aab/2024/05/fxml".toList := by
  intro glob s
  obtain ⟨hstep, hdescribes, -⟩ :=
    ofStep_glob .brief s " https://sri/a+b/***.xml? " rfl (by decide +kernel)
  have htrim : Text.trim " https://sri/a+b/***.xml? " = glob := by decide +kernel
  rw [htrim] at hstep hdescribes
  have hfound : (UrlCriterion.glob (.ofText glob)).accepts "https://sri/a+b/2024/05/f.xml?" =
      true := by
    decide +kernel
  have hmissed : (UrlCriterion.glob (.ofText glob)).accepts "https://sri/aab/2024/05/fxml" =
      false := by
    decide +kernel
  refine ⟨_, hstep, hfound, (hdescribes _ (by decide +kernel)).mp hfound, hmissed, fun h => ?_⟩
  rw [(hdescribes _ (by decide +kernel)).mpr h] at hmissed
  exact Bool.noConfusion hmissed

end UrlCriterion

end FlowPilot
