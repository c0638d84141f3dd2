import FlowPilot.Coordinator.Client
import FlowPilot.Proofs.Text.Blank

/-!
# The path of a plan

The number of an import comes from outside and becomes one segment of an address. Encoded, it can be
read back, so that no two numbers share a path, and nothing in it ends the segment. But dots are not
encoded, and a segment of one or two dots is a way through the tree of paths and not a name.

## Main definitions

* `Text.percentDecode`: the bytes that an encoded text stands for.
* `Text.segments`: the parts of a path.
* `Text.settle`: a path without the segments that are ways.

## Main statements

* `Text.percentDecode_percentEncode`: what is encoded can be read back.
* `Client.planPath_confined_iff`: the path of a plan stays below that of the imports, and belongs to
  one import only, unless the number of the import is one dot or two.
-/

namespace FlowPilot.Text

variable {s t : String} {b : UInt8} {cs : List Char} {sep : Char}

/-! ### Reading back -/

/-- The bytes that an encoded text stands for. A percent sign without two digits stands for
itself. -/
def percentDecode : List Char → List UInt8
  | [] => []
  | '%' :: high :: low :: rest =>
    match Json.hexValue? high, Json.hexValue? low with
    | some high, some low => UInt8.ofNat (16 * high + low) :: percentDecode rest
    | _, _ => 0x25 :: percentDecode (high :: low :: rest)
  | c :: rest => String.utf8EncodeChar c ++ percentDecode rest

theorem hexValue?_capitalHexDigit {n : Nat} (h : n < 16) :
    Json.hexValue? (capitalHexDigit n) = some n := by
  have hall : ∀ n < 16, Json.hexValue? (capitalHexDigit n) = some n := by decide
  exact hall n h

/-- What holds of all small numbers holds of all bytes. -/
theorem forall_byte {p : UInt8 → Prop} (h : ∀ n < 256, p (UInt8.ofNat n)) (b : UInt8) : p b := by
  simpa using h b.toNat b.toNat_lt

theorem utf8EncodeChar_of_isUnreserved (h : isUnreserved b = true) :
    Char.ofNat b.toNat ≠ '%' ∧ String.utf8EncodeChar (Char.ofNat b.toNat) = [b] := by
  have hall : ∀ b, isUnreserved b = true →
      Char.ofNat b.toNat ≠ '%' ∧ String.utf8EncodeChar (Char.ofNat b.toNat) = [b] :=
    forall_byte (by decide +kernel)
  exact hall b h

/-- A byte is read back as it was written, whatever follows it. -/
theorem percentDecode_percentByte (b : UInt8) (rest : List Char) :
    percentDecode (percentByte b ++ rest) = b :: percentDecode rest := by
  unfold percentByte
  split
  next h =>
    obtain ⟨hne, hbyte⟩ := utf8EncodeChar_of_isUnreserved h
    rw [List.singleton_append, percentDecode, hbyte, List.singleton_append]
    exact fun _ _ _ hpercent => absurd hpercent hne
  next =>
    have hb : b.toNat < 256 := b.toNat_lt
    rw [List.cons_append, List.cons_append, List.singleton_append, percentDecode,
      hexValue?_capitalHexDigit (by omega), hexValue?_capitalHexDigit (by omega)]
    simp only [Nat.div_add_mod, UInt8.ofNat_toNat]

theorem percentDecode_flatMap (bs : List UInt8) :
    percentDecode (bs.flatMap percentByte) = bs := by
  induction bs with
  | nil => rfl
  | cons b bs ih => rw [List.flatMap_cons, percentDecode_percentByte, ih]

theorem toList_loop (bytes : ByteArray) (i : Nat) (done : List UInt8) :
    ByteArray.toList.loop bytes i done = done.reverse ++ bytes.data.toList.drop i := by
  fun_induction ByteArray.toList.loop bytes i done with
  | case1 i done h ih =>
    have hi : i < bytes.data.toList.length := h
    have hbyte : bytes.get! i = bytes.data.toList[i] := getElem!_pos bytes.data i h
    rw [ih, List.drop_eq_getElem_cons hi, hbyte, List.reverse_cons, List.append_assoc,
      List.singleton_append]
  | case2 i done h =>
    have hi : bytes.data.toList.length ≤ i := Nat.le_of_not_lt h
    rw [List.drop_eq_nil_of_le hi, List.append_nil]

/-- The bytes of a text in its UTF-8 form. -/
def utf8 (s : String) : List UInt8 := s.toByteArray.data.toList

theorem utf8_inj : utf8 s = utf8 t ↔ s = t := by
  simp [utf8, Array.toList_inj, ByteArray.ext_iff, ← String.toByteArray_inj]

theorem toList_percentEncode (s : String) :
    (percentEncode s).toList = (utf8 s).flatMap percentByte := by
  rw [percentEncode, String.toList_ofList, ByteArray.toList, toList_loop]
  rfl

/-- What is encoded can be read back. -/
theorem percentDecode_percentEncode (s : String) :
    percentDecode (percentEncode s).toList = utf8 s := by
  rw [toList_percentEncode, percentDecode_flatMap]

theorem percentEncode_eq (h : (utf8 s).flatMap percentByte = t.toList) : percentEncode s = t := by
  rw [← String.toList_inj, toList_percentEncode, h]

theorem percentEncode_inj : percentEncode s = percentEncode t ↔ s = t := by
  refine ⟨fun h => ?_, congrArg percentEncode⟩
  rw [← utf8_inj, ← percentDecode_percentEncode, h, percentDecode_percentEncode]

/-- What stays as it is when it is encoded has no other source. -/
theorem percentEncode_eq_iff (h : (utf8 t).flatMap percentByte = t.toList) :
    percentEncode s = t ↔ s = t := by
  have ht := percentEncode_eq h
  rw [← ht, percentEncode_inj, ht]

/-- Nothing that ends a segment of an address is left in an encoded text. -/
theorem not_mem_ends_of_mem_percentEncode {c : Char} (h : c ∈ (percentEncode s).toList) :
    c ∉ ['/', '\\', '?', '#'] := by
  rw [toList_percentEncode, List.mem_flatMap] at h
  obtain ⟨b, -, hc⟩ := h
  have hall : ∀ b, ((percentByte b).all fun c => !(['/', '\\', '?', '#'].contains c)) = true :=
    forall_byte (by decide +kernel)
  simpa using List.all_eq_true.mp (hall b) c hc

/-! ### Segments -/

/-- The parts of a path, behind the slash that begins it. -/
def segments (path : String) : List String := (fields '/' (path.toList.drop 1)).map String.ofList

theorem fields_ne_nil (sep : Char) (cs : List Char) : fields sep cs ≠ [] := by
  cases cs with
  | nil => exact List.cons_ne_nil _ _
  | cons c cs =>
    rw [fields]
    split
    · exact List.cons_ne_nil _ _
    · split <;> exact List.cons_ne_nil _ _

theorem fields_cons_of_ne {c : Char} (h : c ≠ sep) {piece : List Char} {pieces : List (List Char)}
    (hcs : fields sep cs = piece :: pieces) : fields sep (c :: cs) = (c :: piece) :: pieces := by
  rw [fields, hcs]
  exact if_neg h

theorem fields_of_not_mem (h : sep ∉ cs) : fields sep cs = [cs] := by
  induction cs with
  | nil => rfl
  | cons c cs ih =>
    obtain ⟨hc, hcs⟩ := List.ne_and_not_mem_of_not_mem_cons h
    exact fields_cons_of_ne (Ne.symm hc) (ih hcs)

/-- A separator ends the first piece. -/
theorem fields_append (h : sep ∉ cs) (rest : List Char) :
    fields sep (cs ++ sep :: rest) = cs :: fields sep rest := by
  induction cs with
  | nil =>
    obtain ⟨piece, pieces, hrest⟩ := List.exists_cons_of_ne_nil (fields_ne_nil sep rest)
    rw [List.nil_append, fields, hrest]
    exact if_pos rfl
  | cons c cs ih =>
    obtain ⟨hc, hcs⟩ := List.ne_and_not_mem_of_not_mem_cons h
    exact fields_cons_of_ne (Ne.symm hc) (ih hcs)

/-- The path without the segments that are ways, where `done` is what stands before: two dots lead
one segment up and one dot leads nowhere, also if the dots are encoded. A way at the end leads to
the segment without a name. -/
def settleFrom (done : List String) : List String → List String
  | [] => done
  | segment :: rest =>
    let last := if rest.isEmpty then [""] else []
    if percentDecode segment.toList = utf8 ".." then settleFrom (done.dropLast ++ last) rest
    else if percentDecode segment.toList = utf8 "." then settleFrom (done ++ last) rest
    else settleFrom (done ++ [segment]) rest

/-- The path without the segments that are ways. -/
def settle (path : List String) : List String := settleFrom [] path

end FlowPilot.Text

namespace FlowPilot.Client

open Text

variable {importId : String}

/-- Stated for every name, so that none is evaluated when the fixed parts are compared. -/
theorem fields_plan {name : List Char} (h : '/' ∉ name) :
    fields '/' (("/api/agent/importaciones/".toList ++ (name ++ "/plan.json".toList)).drop 1) =
      ["api".toList, "agent".toList, "importaciones".toList, name, "plan.json".toList] := by
  have hfront : "/api/agent/importaciones/".toList =
      '/' :: ("api".toList ++ '/' :: ("agent".toList ++
        '/' :: ("importaciones".toList ++ ['/']))) := by decide
  have hback : "/plan.json".toList = '/' :: "plan.json".toList := by decide
  rw [hfront, hback]
  simp only [List.cons_append, List.append_assoc, List.nil_append, List.drop_succ_cons,
    List.drop_zero]
  rw [fields_append (by decide), fields_append (by decide), fields_append (by decide),
    fields_append h, fields_of_not_mem (by decide)]

/-- The path of a plan has one segment for the import. -/
theorem segments_planPath (importId : String) :
    segments (planPath importId) =
      ["api", "agent", "importaciones", percentEncode (trim importId), "plan.json"] := by
  have hslash : '/' ∉ (percentEncode (trim importId)).toList := fun h =>
    not_mem_ends_of_mem_percentEncode h List.mem_cons_self
  unfold segments planPath
  rw [String.toList_append, String.toList_append, List.append_assoc, fields_plan hslash]
  simp only [List.map_cons, List.map_nil, String.ofList_toList]

theorem settleFrom_cons_of_name {segment : String} (done rest : List String)
    (hup : percentDecode segment.toList ≠ utf8 "..")
    (hhere : percentDecode segment.toList ≠ utf8 ".") :
    settleFrom done (segment :: rest) = settleFrom (done ++ [segment]) rest := by
  rw [settleFrom, if_neg hup, if_neg hhere]

/-- Two dots lead past the segment of all imports, and one dot to that segment. -/
theorem settle_planPath (importId : String) :
    settle (segments (planPath importId)) =
      if trim importId = ".." then ["api", "agent", "plan.json"]
      else if trim importId = "." then ["api", "agent", "importaciones", "plan.json"]
      else segments (planPath importId) := by
  have hlast (done : List String) : settleFrom done ["plan.json"] = done ++ ["plan.json"] := by
    rw [settleFrom_cons_of_name _ _ (by decide) (by decide), settleFrom]
  rw [segments_planPath, settle, settleFrom_cons_of_name _ _ (by decide) (by decide),
    settleFrom_cons_of_name _ _ (by decide) (by decide),
    settleFrom_cons_of_name _ _ (by decide) (by decide), settleFrom, percentDecode_percentEncode]
  simp only [utf8_inj, hlast]
  rfl

/-- Blanks around the number make no difference, and everything else does. -/
theorem planPath_inj {other : String} :
    planPath other = planPath importId ↔ trim other = trim importId := by
  constructor
  · intro hpath
    have hsegments := congrArg segments hpath
    simp only [segments_planPath, List.cons.injEq, percentEncode_inj, true_and, and_true]
      at hsegments
    exact hsegments
  · intro htrim
    unfold planPath
    rw [htrim]

/-- The request for the plan of an import goes to a path that no other import has. The path has one
segment for the import, which nothing in the number ends. Readers of addresses leave the path as it
is exactly if the number is not one dot or two. -/
theorem planPath_confined_iff (c : Client) (transport : Transport)
    (h : isBlankText importId = false) :
    c.fetchRawPlan transport importId = c.exchange transport "GET" (planPath importId) none ∧
      (∀ other, planPath other = planPath importId ↔ trim other = trim importId) ∧
      ∃ s, segments (planPath importId) = ["api", "agent", "importaciones", s, "plan.json"] ∧
        s ≠ "" ∧ (∀ x ∈ s.toList, x ∉ ['/', '\\', '?', '#']) ∧
        (s ≠ "." ∧ s ≠ ".." ↔ trim importId ≠ "." ∧ trim importId ≠ "..") ∧
        (settle (segments (planPath importId)) = segments (planPath importId) ↔
          trim importId ≠ "." ∧ trim importId ≠ "..") := by
  refine ⟨?_, fun other => planPath_inj, percentEncode (trim importId),
    segments_planPath importId, ?_, fun x => not_mem_ends_of_mem_percentEncode, ?_, ?_⟩
  · rw [fetchRawPlan, h]
    rfl
  · rw [Ne, percentEncode_eq_iff (by decide)]
    exact ne_empty_of_not_blank (isBlankText_trim h)
  · rw [Ne, Ne, percentEncode_eq_iff (by decide), percentEncode_eq_iff (by decide)]
  · rw [settle_planPath]
    by_cases hup : trim importId = ".."
    · simp [hup, segments_planPath]
    · by_cases hhere : trim importId = "."
      · simp [hhere, segments_planPath]
      · simp [hup, hhere]

/-- A number that is made to lead somewhere else stays one segment. -/
theorem planPath_confined_slashes :
    isBlankText " ../me?x " = false ∧
      segments (planPath " ../me?x ") =
        ["api", "agent", "importaciones", "..%2Fme%3Fx", "plan.json"] ∧
      settle (segments (planPath " ../me?x ")) = segments (planPath " ../me?x ") := by
  have hblank : isBlankText " ../me?x " = false := by decide
  obtain ⟨-, -, _, -, -, -, -, hsettle⟩ :=
    @planPath_confined_iff " ../me?x " ⟨"http://localhost", "token"⟩
      (fun _ => .error "") hblank
  have hname : percentEncode (trim " ../me?x ") = "..%2Fme%3Fx" := percentEncode_eq (by decide)
  exact ⟨hblank, by rw [segments_planPath, hname], hsettle.mpr (by decide)⟩

/-- Two dots are a number as any other to the client, and lead past the imports. -/
theorem planPath_of_dots :
    isBlankText ".." = false ∧
      segments (planPath "..") = ["api", "agent", "importaciones", "..", "plan.json"] ∧
      settle (segments (planPath "..")) = ["api", "agent", "plan.json"] := by
  have hname : percentEncode (trim "..") = ".." := percentEncode_eq (by decide)
  refine ⟨by decide, by rw [segments_planPath, hname], ?_⟩
  rw [settle_planPath, if_pos (by decide)]

end FlowPilot.Client
