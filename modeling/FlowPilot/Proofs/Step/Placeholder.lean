import FlowPilot.Proofs.Json.Scalar
import FlowPilot.Proofs.Number.Reading
import FlowPilot.Proofs.Text.Blank
import FlowPilot.Step.Decode
import FlowPilot.Template.Render

/-!
# Fields given by placeholders

A field that is read from any value may be written as a placeholder. The variable then holds the
value as a text, and the step reads the text back. For texts, times and widths this makes no
difference, nor for flags, with one exception: a zero with a point, such as `0.0`, is a flag that is
not set, but its text is not among those that mean no.

## Main definitions

* `Step.lenientKeys`: the fields that are read from any value, as texts, lists, flags or numbers.
* `Step.Agree`: members of which a step reads the same.
* `Json.isRealZero`: a zero that is not an integer.

## Main statements

* `Step.ofFields_congr`: a step depends on what is read from its fields alone.
* `Step.real_eq`, `Step.flag_eq`: numbers and flags are read back from their texts.
* `Step.ofJson_placeholder`: a field given by a placeholder against the same field written out.
-/

namespace FlowPilot

/-! ### Texts of numbers -/

/-- A character of a number is no blank and no capital letter. -/
theorem plain_of_isNumberChar {c : Char} (h : isNumberChar c = true) :
    Text.isBlank c = false ∧ Text.asciiSmall c = c := by
  rcases Bool.or_eq_true_iff.mp h with hdigit | hsign
  · obtain ⟨hlow, hhigh⟩ := isDigit_iff.mp hdigit
    have hall : ∀ n < 58, 48 ≤ n →
        Text.isBlank (Char.ofNat n) = false ∧ Text.asciiSmall (Char.ofNat n) = Char.ofNat n := by
      decide
    simpa using hall c.toNat (by omega) hlow
  · have hmem : c ∈ ['.', 'e', '+', '-'] := by simpa using hsign
    simp only [List.mem_cons, List.not_mem_nil, or_false] at hmem
    rcases hmem with rfl | rfl | rfl | rfl <;> decide

theorem read_of_isNumberChar {s : String} (h : ∀ c ∈ s.toList, isNumberChar c = true) :
    Text.trim s = s ∧ Text.asciiLower s = s := by
  refine ⟨Text.trim_of_not_blank fun c hc => (plain_of_isNumberChar (h c hc)).1, ?_⟩
  have hsmall : s.toList.map Text.asciiSmall = s.toList :=
    (List.map_congr_left fun c hc => (plain_of_isNumberChar (h c hc)).2).trans (List.map_id _)
  rw [Text.asciiLower, hsmall, String.ofList_toList]

namespace Json

/-- A zero that is not an integer: it has a point or an exponent. -/
def isRealZero : Json → Bool
  | number (.real x) => x.isZero
  | _ => false

theorem compact_number (n : Number) : (number n).compact = n.toText := by
  rw [compact, compactChars, String.ofList_toList]

/-- The text of a number is made of digits and signs, and it is read as the number. -/
theorem read_toText {n : Number} (h : (number n).IsScalar) :
    (∀ c ∈ n.toText.toList, isNumberChar c = true) ∧ binary64? n.toText = some n.toBinary64 := by
  cases h with
  | int i => exact ⟨fun c => toString_chars, binary64?_toString i⟩
  | @real x hx =>
    refine ⟨fun c => ?_, binary64?_toText hx⟩
    cases x with
    | infinite s => exact hx.elim
    | undefined => exact hx.elim
    | finite s m e => exact toText_chars

/-- Only the integer zero is an integer that counts as zero. -/
theorem eq_zero_of_isZero {i : ℤ} (h : (Binary64.ofInt i).isZero = true) : i = 0 := by
  by_contra hi
  have hnot := Binary64.isZero_ofRatio (decide (i < 0)) one_pos (Int.natAbs_pos.mpr hi)
  rw [Binary64.ofInt] at h
  rw [hnot] at h
  cases h

end Json

namespace Step

/-! ### Fields -/

/-- The fields that are read as texts, whatever stands there. -/
def textKeys : List String :=
  ["url", "text", "value", "label", "key", "rowText", "cellText", "cellIndex"]

/-- The fields that are read as lists of texts; a single value is a list of one. -/
def listKeys : List String :=
  ["selectors", "anyText", "actionSelectors", "targetSelectors", "linkSelectors", "toggleSelectors"]

def flagKeys : List String := ["fallbackClick", "logUrl"]

def numberKeys : List String := ["timeout", "minWidth"]

/-- All fields that are read from any value. -/
def lenientKeys : List String := textKeys ++ (listKeys ++ (flagKeys ++ numberKeys))

/-- Members of which a step reads the same: they are equal but for fields that are read from any
value, and what is read from these is equal. -/
structure Agree (m m' : Json.Members) : Prop where
  strict : ∀ key, key ∉ lenientKeys → m.lookup key = m'.lookup key
  text : ∀ key ∈ textKeys, anyText m key = anyText m' key
  list : ∀ key ∈ listKeys, textList m key = textList m' key
  flag : ∀ key ∈ flagKeys, flag m key = flag m' key
  number : ∀ key ∈ numberKeys, real m key = real m' key

/-- A step depends on what is read from its fields alone. -/
theorem ofFields_congr {m m' : Json.Members} (h : Agree m m') (kind : Kind) :
    ofFields kind m = ofFields kind m' := by
  -- The kinds read few forms of fields. For each form a key that is not lenient is read from equal
  -- members, a lenient one equally from different members.
  have hplain : ∀ key, key ∉ lenientKeys → plainText m key = plainText m' key := fun key hkey => by
    rw [plainText, plainText, h.strict key hkey]
  have hchoice : ∀ {α : Type} (ofName? : String → Option α) (key : String),
      key ∉ lenientKeys → choice ofName? m key = choice ofName? m' key :=
    fun ofName? key hkey => by rw [choice, choice, h.strict key hkey]
  have htemplates : ∀ key, key ∉ lenientKeys → templates m key = templates m' key :=
    fun key hkey => by rw [templates, templates, h.strict key hkey]
  have hmembers : ∀ key, key ∉ lenientKeys → objectMembers m key = objectMembers m' key :=
    fun key hkey => by rw [objectMembers, objectMembers, h.strict key hkey]
  have htime : time m "timeout" = time m' "timeout" := by
    rw [time, time, h.number "timeout" (by decide)]
  cases kind with
  | goto =>
    simp only [ofFields, htime, hchoice _ "waitUntil" (by decide), h.text "url" (by decide)]
  | click => simp only [ofFields, htime, hplain "selector" (by decide)]
  | clickAny =>
    simp only [ofFields, htime, h.list "selectors" (by decide), h.flag "logUrl" (by decide)]
  | fill =>
    simp only [ofFields, htime, hplain "selector" (by decide), h.text "text" (by decide)]
  | select =>
    simp only [ofFields, htime, hplain "selector" (by decide), h.text "value" (by decide),
      h.text "label" (by decide), h.text "text" (by decide)]
  | waitForSelector =>
    simp only [ofFields, htime, hplain "selector" (by decide), hchoice _ "state" (by decide)]
  | waitForUrl =>
    simp only [ofFields, htime, hplain "pattern" (by decide), h.text "url" (by decide)]
  | expectText =>
    simp only [ofFields, htime, hplain "selector" (by decide), h.text "text" (by decide)]
  | press =>
    simp only [ofFields, htime, hplain "selector" (by decide), h.text "key" (by decide)]
  | assertOnPage =>
    simp only [ofFields, htime, hplain "urlPattern" (by decide), hplain "selector" (by decide),
      h.list "anyText" (by decide)]
  | clickRowAction =>
    simp only [ofFields, htime, hplain "table" (by decide), h.text "rowText" (by decide),
      h.list "actionSelectors" (by decide), h.flag "fallbackClick" (by decide),
      h.flag "logUrl" (by decide)]
  | clickTableCellLink =>
    simp only [ofFields, htime, hplain "table" (by decide), hplain "match" (by decide),
      h.text "rowText" (by decide), h.text "cellText" (by decide), h.text "cellIndex" (by decide),
      h.list "targetSelectors" (by decide), h.list "linkSelectors" (by decide),
      h.flag "fallbackClick" (by decide), h.flag "logUrl" (by decide)]
  | ensureSidebarOpen =>
    simp only [ofFields, htime, hplain "selector" (by decide), hplain "toggleSelector" (by decide),
      h.list "toggleSelectors" (by decide), h.number "minWidth" (by decide)]
  | trySteps =>
    simp only [ofFields, htime, htemplates "steps" (by decide),
      htemplates "fallbackSteps" (by decide)]
  | runAction =>
    simp only [ofFields, hplain "action" (by decide), hplain "actionName" (by decide),
      hplain "name" (by decide), hmembers "vars" (by decide)]

/-- A reading that fails names a field that must have its form. -/
def BlamesStrict {α : Type} (x : Reading α) : Prop :=
  ∀ field, x = .error field → field ∉ lenientKeys

theorem BlamesStrict.pure {α : Type} (a : α) : BlamesStrict (pure a : Reading α) := nofun

theorem BlamesStrict.demand {α : Type} {key : String} (hkey : key ∉ lenientKeys) (o : Option α) :
    BlamesStrict (demand key o) := by
  intro field h
  cases o with
  | some a => cases h
  | none =>
    cases h
    exact hkey

theorem BlamesStrict.bind {α β : Type} {x : Reading α} {f : α → Reading β} (hx : BlamesStrict x)
    (hf : ∀ a, BlamesStrict (f a)) : BlamesStrict (x >>= f) := by
  intro field h
  cases x with
  | error e =>
    cases h
    exact hx _ rfl
  | ok a => exact hf a field h

theorem ofFields_blamesStrict (kind : Kind) (m : Json.Members) :
    BlamesStrict (ofFields kind m) := by
  have hplain : ∀ key, key ∉ lenientKeys → BlamesStrict (plainText m key) :=
    fun key hkey => .demand hkey _
  have htemplates : ∀ key, key ∉ lenientKeys → BlamesStrict (templates m key) := by
    intro key hkey
    unfold templates
    split
    · exact .pure []
    · exact .demand hkey _
  have hmembers : ∀ key, key ∉ lenientKeys → BlamesStrict (objectMembers m key) := by
    intro key hkey
    unfold objectMembers
    split
    · exact .pure []
    · exact .demand hkey _
  cases kind with
  | goto => exact (BlamesStrict.demand (by decide) _).bind fun _ => .pure _
  | clickAny => exact .pure _
  | waitForSelector =>
    exact (hplain "selector" (by decide)).bind fun _ =>
      (BlamesStrict.demand (by decide) _).bind fun _ => .pure _
  | click | fill | select | expectText | press =>
    exact (hplain "selector" (by decide)).bind fun _ => .pure _
  | waitForUrl => exact (hplain "pattern" (by decide)).bind fun _ => .pure _
  | assertOnPage =>
    exact (hplain "selector" (by decide)).bind fun _ =>
      (hplain "urlPattern" (by decide)).bind fun _ => .pure _
  | clickRowAction => exact (hplain "table" (by decide)).bind fun _ => .pure _
  | clickTableCellLink =>
    exact (hplain "match" (by decide)).bind fun _ =>
      (hplain "table" (by decide)).bind fun _ => .pure _
  | ensureSidebarOpen =>
    exact (hplain "selector" (by decide)).bind fun _ =>
      (hplain "toggleSelector" (by decide)).bind fun _ => .pure _
  | trySteps =>
    exact (htemplates "fallbackSteps" (by decide)).bind fun _ =>
      (htemplates "steps" (by decide)).bind fun _ => .pure _
  | runAction =>
    exact (hplain "action" (by decide)).bind fun _ =>
      (hplain "actionName" (by decide)).bind fun _ =>
        (hplain "name" (by decide)).bind fun _ =>
          (hmembers "vars" (by decide)).bind fun _ => .pure _

/-- What libraries say about a field depends on its value, which is the same where it must have a
form. -/
theorem ofJson_congr (w : Wording) {m m' : Json.Members} (h : Agree m m') :
    ofJson w (.object m) = ofJson w (.object m') := by
  have hkind : kindText? (.object m) = kindText? (.object m') := by
    rw [kindText?, kindText?, Json.get?, Json.get?, h.strict "type" (by decide)]
  have hfields : ∀ kind, ofFields kind (((Json.object m).object?).getD []) =
      ofFields kind (((Json.object m').object?).getD []) := ofFields_congr h
  simp only [ofJson, hkind, hfields]
  cases kindText? (.object m') with
  | none => rfl
  | some text =>
    dsimp only
    cases Kind.ofName? text with
    | none => rfl
    | some kind =>
      dsimp only
      cases hread : ofFields kind (((Json.object m').object?).getD []) with
      | ok step => rfl
      | error field =>
        have hgiven := h.strict field (ofFields_blamesStrict kind _ field hread)
        simp only [Json.get?, hgiven]

/-! ### Reading texts of values -/

section Reading

variable {m m' : Json.Members} {key t : String} {v : Json}

theorem anyText_eq (hm : m.lookup key = some v) (hm' : m'.lookup key = some (.text t))
    (ht : valueText? v = some t) : anyText m key = anyText m' key := by
  rw [anyText, anyText, hm, hm']
  exact ht

theorem textList_eq (hv : v.IsScalar) (hm : m.lookup key = some v)
    (hm' : m'.lookup key = some (.text t)) (ht : valueText? v = some t) :
    textList m key = textList m' key := by
  rw [textList, textList, hm, hm']
  cases hv <;> exact congrArg Option.toList ht

/-- Numbers are read back from their texts, and from other texts nothing else is read. -/
theorem real_eq (hv : v.IsScalar) (hm : m.lookup key = some v)
    (hm' : m'.lookup key = some (.text t)) (ht : valueText? v = some t) :
    real m key = real m' key := by
  have hnumber : ∀ n : Json.Number, v = .number n →
      binary64? (Text.trim t) = some n.toBinary64 := by
    rintro n rfl
    obtain ⟨hchars, hread⟩ := Json.read_toText hv
    have htext : t = n.toText := (Option.some.inj ht).symm.trans (Json.compact_number n)
    rw [htext, (read_of_isNumberChar hchars).1, hread]
  rw [real, real, hm, hm']
  cases hv with
  | bool b =>
    obtain rfl := Option.some.inj ht
    cases b <;> decide +kernel
  | text s =>
    obtain rfl := Option.some.inj ht
    rfl
  | int i => simp only [hnumber _ rfl]
  | real hx => simp only [hnumber _ rfl]

/-- Flags are read back from their texts, but for a zero with a point. -/
theorem flag_eq (hv : v.IsScalar) (hzero : v.isRealZero = false) (hm : m.lookup key = some v)
    (hm' : m'.lookup key = some (.text t)) (ht : valueText? v = some t) :
    flag m key = flag m' key := by
  -- The one case with content: a number counts as zero exactly if its text means no.
  have hnumber : ∀ n : Json.Number, v = .number n →
      n.toBinary64.isZero = negations.contains (Text.asciiLower (Text.trim t)) := by
    rintro n rfl
    obtain ⟨hchars, hread⟩ := Json.read_toText hv
    obtain ⟨htrim, hlower⟩ := read_of_isNumberChar hchars
    have htext : t = n.toText := (Option.some.inj ht).symm.trans (Json.compact_number n)
    rw [htext, htrim, hlower, Bool.eq_iff_iff]
    constructor
    · -- Of the numbers that count as zero only the integer is left.
      intro hn
      cases n with
      | int i =>
        obtain rfl := Json.eq_zero_of_isZero hn
        decide +kernel
      | real x => exact absurd (hzero.symm.trans hn) Bool.false_ne_true
    · -- Of the texts that mean no only `0` is read as a number.
      intro hno
      have hreads : ∀ s ∈ negations, (binary64? s).all Binary64.isZero = true := by decide +kernel
      have hall := hreads n.toText (by simpa using hno)
      rwa [hread] at hall
  rw [flag, flag, hm, hm']
  cases hv with
  | bool b =>
    obtain rfl := Option.some.inj ht
    cases b <;> decide +kernel
  | text s =>
    obtain rfl := Option.some.inj ht
    rfl
  | int i => simp only [hnumber _ rfl]
  | real hx => simp only [hnumber _ rfl]

/-- The text of a zero with a point is `0.0` or `-0.0`, which does not mean no. -/
theorem flag_of_isRealZero (hv : v.IsScalar) (hzero : v.isRealZero = true)
    (hm : m.lookup key = some v) (hm' : m'.lookup key = some (.text t))
    (ht : valueText? v = some t) : flag m key = false ∧ flag m' key = true := by
  rw [flag, flag, hm, hm']
  cases hv with
  | @real x hx =>
    cases x with
    | infinite s => cases hzero
    | undefined => cases hzero
    | finite s mantissa e =>
      have hmantissa : mantissa = 0 := by simpa [Json.isRealZero, Binary64.isZero] using hzero
      subst hmantissa
      have htext : t = String.ofList (if s then ['-', '0', '.', '0'] else ['0', '.', '0']) := by
        rw [← Option.some.inj ht, Json.compact_number, Json.Number.toText, Binary64.toText,
          if_pos rfl]
      rw [htext]
      refine ⟨rfl, ?_⟩
      cases s <;> decide +kernel
  | _ => cases hzero

end Reading

end Step

/-! ### Setting a field -/

namespace Json

theorem lookup_insertMember_self (key : String) (value : Json) (m : Members) :
    (insertMember key value m).lookup key = some value := by
  induction m with
  | nil => simp [insertMember]
  | cons member rest ih =>
    obtain ⟨k, v⟩ := member
    rw [insertMember]
    split
    · simp
    · split
      · simp
      next hne =>
        rw [List.lookup_cons, beq_false_of_ne hne]
        exact ih

theorem lookup_insertMember_of_ne {key other : String} (hne : other ≠ key) (value : Json)
    (m : Members) : (insertMember key value m).lookup other = m.lookup other := by
  have hskip : (other == key) = false := beq_false_of_ne hne
  induction m with
  | nil => simp [insertMember, List.lookup_cons, hskip]
  | cons member rest ih =>
    obtain ⟨k, v⟩ := member
    rw [insertMember]
    split
    · simp [List.lookup_cons, hskip]
    · split
      next heq => simp [List.lookup_cons, hskip, ← heq]
      next => rw [List.lookup_cons, List.lookup_cons, ih]

end Json

namespace Template

/-- What is named inside members of which one was set: it is named in that one or in the others. -/
theorem mem_keysInMembers_insertMember {key name : String} {value : Json} {m : Json.Members}
    (h : name ∈ keysInMembers (Json.insertMember key value m)) :
    name ∈ keysIn value ∨ name ∈ keysInMembers m := by
  induction m with
  | nil => simpa [Json.insertMember, keysInMembers] using h
  | cons member rest ih =>
    obtain ⟨k, v⟩ := member
    rw [Json.insertMember] at h
    split at h
    · exact List.mem_append.mp h
    split at h
    · exact (List.mem_append.mp h).imp_right fun h => List.mem_append_right _ h
    · rcases List.mem_append.mp h with h | h
      · exact .inr (List.mem_append_left _ h)
      · exact (ih h).imp_right fun h => List.mem_append_right _ h

end Template

namespace Bindings

open Template (Blanks Key Segment written)

/-- A variable that is set to a value has the text of the value, none for null. -/
theorem get?_setJson (b : Bindings) (key : String) (v : Json) :
    (b.setJson key v).get? key = Step.valueText? v := by
  have hset : ∀ s, (b.set key s).get? key = some s := fun s => by simp [set, get?]
  cases v with
  | null =>
    have hnone : (b.entries.filter (·.1 != key)).lookup key = none := by
      rw [List.lookup_eq_none_iff]
      intro entry hentry
      have hne := (List.mem_filter.mp hentry).2
      rwa [bne_comm] at hne
    exact hnone
  | _ => exact hset _

theorem fillMembers_insertMember (b : Bindings) (key : String) (value : Json) (m : Json.Members) :
    b.fillMembers (Json.insertMember key value m) =
      Json.insertMember key (b.fillJson value) (b.fillMembers m) := by
  induction m with
  | nil => rfl
  | cons member rest ih =>
    obtain ⟨k, v⟩ := member
    simp only [fillMembers, Json.insertMember]
    split
    · rfl
    · split
      · rfl
      · rw [fillMembers, ih]

/-- A text that is a placeholder becomes the text of its variable. -/
theorem fillJson_placeholder (b : Bindings) (left right : Blanks) (var : Key) :
    b.fillJson (.text (written [.placeholder left var right])) = .text (b.text var.name) := by
  have hfill := b.fill_written.1 [.placeholder left var right]
  rw [fillJson, hfill]
  simp [Segment.filled, text]

end Bindings

namespace Step

open Template (Blanks Key written)

/-- A template with one field set. -/
def withField (m : Json.Members) (key : String) (value : Json) : Json :=
  .object (Json.insertMember key value m)

def placeholder (left : Blanks) (var : Key) (right : Blanks) : Json :=
  .text (written [.placeholder left var right])

theorem valueText?_of_isScalar {v : Json} (hv : v.IsScalar) : ∃ t, valueText? v = some t := by
  cases hv <;> exact ⟨_, rfl⟩

/-- A rendered placeholder has become the text of the value. -/
theorem eq_withField_of_render {b : Bindings} {mode : RenderMode} {m : Json.Members}
    {key t : String} {v rendered : Json} {left right : Blanks} {var : Key}
    (ht : valueText? v = some t)
    (h : (b.setJson var.name v).render mode (withField m key (placeholder left var right)) =
      .ok rendered) :
    rendered = withField ((b.setJson var.name v).fillMembers m) key (.text t) := by
  have htext : (b.setJson var.name v).text var.name = t := by
    rw [Bindings.text, Bindings.get?_setJson, ht]
    rfl
  have hfilled : rendered = (b.setJson var.name v).fillJson
      (withField m key (placeholder left var right)) := by
    unfold Bindings.render at h
    split at h
    · cases h
    · exact (Except.ok.inj h).symm
  rw [hfilled, withField, placeholder, Bindings.fillJson, Bindings.fillMembers_insertMember,
    Bindings.fillJson_placeholder, htext]
  rfl

/-- Members with different values of one field agree if the same is read from it. -/
theorem agree_insertMember {m : Json.Members} {key : String} {value value' : Json}
    (hkey : key ∈ lenientKeys)
    (htext : key ∈ textKeys →
      anyText (Json.insertMember key value m) key = anyText (Json.insertMember key value' m) key)
    (hlist : key ∈ listKeys →
      textList (Json.insertMember key value m) key = textList (Json.insertMember key value' m) key)
    (hflag : key ∈ flagKeys →
      flag (Json.insertMember key value m) key = flag (Json.insertMember key value' m) key)
    (hnumber : key ∈ numberKeys →
      real (Json.insertMember key value m) key = real (Json.insertMember key value' m) key) :
    Agree (Json.insertMember key value m) (Json.insertMember key value' m) := by
  have hother : ∀ other, other ≠ key → (Json.insertMember key value m).lookup other =
      (Json.insertMember key value' m).lookup other := fun other hne => by
    rw [Json.lookup_insertMember_of_ne hne, Json.lookup_insertMember_of_ne hne]
  refine ⟨fun other hout => hother other ?_, fun other hin => ?_, fun other hin => ?_,
    fun other hin => ?_, fun other hin => ?_⟩
  · rintro rfl
    exact hout hkey
  all_goals by_cases heq : other = key
  · exact heq ▸ htext (heq ▸ hin)
  · rw [anyText, anyText, hother other heq]
  · exact heq ▸ hlist (heq ▸ hin)
  · rw [textList, textList, hother other heq]
  · exact heq ▸ hflag (heq ▸ hin)
  · rw [flag, flag, hother other heq]
  · exact heq ▸ hnumber (heq ▸ hin)
  · rw [real, real, hother other heq]

theorem mem_lenientKeys_of_flag {key : String} (hkey : key ∈ flagKeys) :
    key ∈ lenientKeys ∧ key ∉ textKeys ∧ key ∉ listKeys ∧ key ∉ numberKeys := by
  have hall : ∀ key ∈ flagKeys,
      key ∈ lenientKeys ∧ key ∉ textKeys ∧ key ∉ listKeys ∧ key ∉ numberKeys := by decide
  exact hall key hkey

/-- Values of a flag count as set or not, and nothing else is read from them. -/
theorem ofJson_withField_flag (w : Wording) {m : Json.Members} {key : String}
    (hkey : key ∈ flagKeys) {value : Json} {on : Bool}
    (h : flag (Json.insertMember key value m) key = on) :
    ofJson w (withField m key value) = ofJson w (withField m key (.bool on)) := by
  obtain ⟨hlenient, htext, hlist, hnumber⟩ := mem_lenientKeys_of_flag hkey
  have hon : flag (Json.insertMember key (.bool on) m) key = on := by
    rw [flag, Json.lookup_insertMember_self]
  exact ofJson_congr w (agree_insertMember hlenient (fun hin => absurd hin htext)
    (fun hin => absurd hin hlist) (fun _ => h.trans hon.symm) fun hin => absurd hin hnumber)

/-- Where the other fields hold no placeholders, they stay, and rendering succeeds. -/
theorem render_placeholder (b : Bindings) (mode : RenderMode) {m : Json.Members}
    (hm : Template.keysInMembers m = []) (key : String) (left right : Blanks) (var : Key) {v : Json}
    (hv : v.IsScalar) :
    (b.setJson var.name v).fillMembers m = m ∧
      ∃ rendered, (b.setJson var.name v).render mode
        (withField m key (placeholder left var right)) = .ok rendered := by
  refine ⟨(b.setJson var.name v).fillMembers_of_keysIn_eq_nil m hm, ?_⟩
  obtain ⟨t, ht⟩ := valueText?_of_isScalar hv
  have hbound : (b.setJson var.name v).unbound (withField m key (placeholder left var right)) =
      [] := by
    have hnone : (Template.keysIn (withField m key (placeholder left var right))).filter
        (fun name => ((b.setJson var.name v).get? name).isNone) = [] := by
      rw [List.filter_eq_nil_iff]
      intro name hname
      rcases Template.mem_keysInMembers_insertMember hname with hname | hname
      · have hself : name = var.name := by
          simpa [placeholder, Template.keysIn, Template.keys, Template.pieces_written,
            Template.Segment.pieces] using hname
        rw [hself, Bindings.get?_setJson, ht]
        exact Bool.false_ne_true
      · rw [hm] at hname
        exact absurd hname List.not_mem_nil
    rw [Bindings.unbound, hnone]
    rfl
  unfold Bindings.render
  rw [hbound]
  cases mode <;> exact ⟨_, rfl⟩

/-- A field that is read from any value, given by a placeholder whose variable was set to a scalar,
against the same field written out: in every template, whatever its kind and its other fields are,
both give the same step, or the same error. The one exception is a flag that is a zero with a point
or an exponent. Written out it is not set; given by a placeholder it is set, because its text is not
among those that mean no. Where the other fields hold no placeholders, they stay as they are and the
template can always be rendered. -/
theorem ofJson_placeholder (w : Wording) (b : Bindings) (mode : RenderMode) (m : Json.Members)
    (left right : Blanks) (var : Key) {key : String} (hkey : key ∈ lenientKeys) {v : Json}
    (hv : v.IsScalar) :
    let bound := b.setJson var.name v
    let template := withField m key (placeholder left var right)
    let literal := withField (bound.fillMembers m) key
    (∀ rendered, bound.render mode template = .ok rendered →
      (¬(key ∈ flagKeys ∧ v.isRealZero = true) → ofJson w rendered = ofJson w (literal v)) ∧
      (key ∈ flagKeys ∧ v.isRealZero = true →
        ofJson w (literal v) = ofJson w (literal (.bool false)) ∧
          ofJson w rendered = ofJson w (literal (.bool true)))) ∧
    (Template.keysInMembers m = [] →
      bound.fillMembers m = m ∧ ∃ rendered, bound.render mode template = .ok rendered) := by
  intro bound template literal
  obtain ⟨t, ht⟩ := valueText?_of_isScalar hv
  have hself : ∀ value, (Json.insertMember key value (bound.fillMembers m)).lookup key =
      some value := fun value => Json.lookup_insertMember_self key value _
  refine ⟨fun rendered hrender => ?_,
    fun hm => render_placeholder b mode hm key left right var hv⟩
  rw [eq_withField_of_render ht hrender]
  -- The two templates agree in every form of reading; only for flags the exception matters.
  refine ⟨fun hzero => ?_, fun ⟨hflag, hzero⟩ => ?_⟩
  · refine (ofJson_congr w (agree_insertMember hkey (fun _ => ?_) (fun _ => ?_) (fun hflag => ?_)
      fun _ => ?_)).symm
    · exact anyText_eq (hself v) (hself _) ht
    · exact textList_eq hv (hself v) (hself _) ht
    · have hnot : v.isRealZero = false := by
        rw [Bool.eq_false_iff]
        exact fun h => hzero ⟨hflag, h⟩
      exact flag_eq hv hnot (hself v) (hself _) ht
    · exact real_eq hv (hself v) (hself _) ht
  · obtain ⟨hoff, hon⟩ := flag_of_isRealZero hv hzero (hself v) (hself _) ht
    exact ⟨ofJson_withField_flag w hflag hoff, ofJson_withField_flag w hflag hon⟩

/-- A template that clicks the first of some elements. -/
def clickFirst : Json.Members :=
  [("selectors", .array [.text "#a"]), ("type", .text "clickAny")]

def keyX : Key := ⟨['x'], List.cons_ne_nil _ _, List.forall_mem_singleton.mpr (by decide +kernel)⟩

def noBlanks : Blanks := ⟨[], nofun⟩

def twoAndHalf : Json := .number (.real (.finite false (5 * 2 ^ 50) (-51)))

def pointedZero : Json := .number (.real (.zero false))

/-- A time of two and a half milliseconds, and a flag that is the zero `0.0`. -/
theorem ofJson_placeholder_clickFirst :
    (∃ rendered, (Bindings.empty.setJson keyX.name twoAndHalf).render .strict
        (withField clickFirst "timeout" (placeholder noBlanks keyX noBlanks)) = .ok rendered ∧
      ofJson .brief rendered = ofJson .brief (withField clickFirst "timeout" twoAndHalf)) ∧
    ∃ rendered, (Bindings.empty.setJson keyX.name pointedZero).render .strict
        (withField clickFirst "logUrl" (placeholder noBlanks keyX noBlanks)) = .ok rendered ∧
      ofJson .brief rendered = ofJson .brief (withField clickFirst "logUrl" (.bool true)) := by
  have hplain : Template.keysInMembers clickFirst = [] := by decide +kernel
  have htime : twoAndHalf.IsScalar := .real ⟨by norm_num, by decide, by decide, .inr (by norm_num)⟩
  have hzero : pointedZero.IsScalar := .real Binary64.isDouble_zero
  constructor
  · obtain ⟨hread, hrender⟩ := ofJson_placeholder .brief Bindings.empty .strict clickFirst noBlanks
      noBlanks keyX (by decide : "timeout" ∈ lenientKeys) htime
    obtain ⟨hfill, rendered, hrendered⟩ := hrender hplain
    have hsame := (hread rendered hrendered).1 fun h => absurd h.1 (by decide)
    rw [hfill] at hsame
    exact ⟨rendered, hrendered, hsame⟩
  · obtain ⟨hread, hrender⟩ := ofJson_placeholder .brief Bindings.empty .strict clickFirst noBlanks
      noBlanks keyX (by decide : "logUrl" ∈ lenientKeys) hzero
    obtain ⟨hfill, rendered, hrendered⟩ := hrender hplain
    have hon := ((hread rendered hrendered).2 ⟨by decide, rfl⟩).2
    rw [hfill] at hon
    exact ⟨rendered, hrendered, hon⟩

/-- The flag `0.0` is not set when it is written out, and set when a placeholder gives it. -/
theorem ofJson_placeholder_zero :
    (Bindings.empty.setJson "x" pointedZero).render .strict
        (withField clickFirst "logUrl" (.text "\x7b\x7bx\x7d\x7d")) =
      .ok (withField clickFirst "logUrl" (.text "0.0")) ∧
    ofJson .brief (withField clickFirst "logUrl" (.text "0.0")) ≠
      ofJson .brief (withField clickFirst "logUrl" pointedZero) := by
  have hplaceholder : ofJson .brief (withField clickFirst "logUrl" (.text "0.0")) =
      .ok (.leaf (.clickAny ⟨["#a"], true, none⟩)) := rfl
  have hliteral : ofJson .brief (withField clickFirst "logUrl" pointedZero) =
      .ok (.leaf (.clickAny ⟨["#a"], false, none⟩)) := rfl
  refine ⟨rfl, ?_⟩
  rw [hplaceholder, hliteral]
  intro h
  cases h

end Step

end FlowPilot
