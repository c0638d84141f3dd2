import FlowPilot.Proofs.Desk.Events
import FlowPilot.Proofs.Evidence

/-!
# Where pictures are stored

The operator asks for a picture under any label, and an action that fails takes one under its own
name, which may be any text. Every picture that is stored is stored in the directory of the
evidence itself, not above and not below it.

## Main definitions

* `Desk.parts`: the names that a path leads through.
* `Desk.StoredIn`: a picture is stored in a directory under a plain name.

## Main statements

* `Desk.parts_pathIn`: a file in a directory is one name behind those of the directory.
* `Desk.capture_storedIn`: a picture is stored in its directory, whatever its label is.
* `Desk.pictures_storedIn`: the same for all pictures that commands answer or report.
-/

namespace FlowPilot.Desk

open Act Evidence

variable {α : Type} {setup : Setup} {a : Announcement} {d : Desk} {dir name : String}

/-! ### Paths -/

/-- The names that a path leads through. -/
def parts (path : String) : List (List Char) := Text.runsOf (· != '/') path.toList

theorem parts_append_slash (s t : List Char) :
    Text.runsOf (· != '/') (s ++ '/' :: t) =
      Text.runsOf (· != '/') s ++ Text.runsOf (· != '/') t :=
  Text.runsFrom_append_cons rfl [] s t

/-- A file in a directory is one name behind those of the directory, and the way there begins where
that to the directory does. -/
theorem parts_pathIn (dir : String) (hne : name ≠ "") (hname : ∀ c ∈ name.toList, c ≠ '/') :
    parts (pathIn dir name) = parts dir ++ [name.toList] ∧
      isAbsolute (pathIn dir name) = isAbsolute dir := by
  have hnil : name.toList ≠ [] := mt String.toList_eq_nil_iff.mp hne
  have hrun : ∀ c ∈ name.toList, (c != '/') = true := fun c hc => bne_iff_ne.mpr (hname c hc)
  have hparts : Text.runsOf (· != '/') name.toList = [name.toList] := by
    have hwhole := Text.runsOf_run hnil hrun []
    simpa [Text.runsOf, Text.runsFrom] using hwhole
  have hrelative : isAbsolute name = false := by
    rw [isAbsolute, beq_eq_false_iff_ne]
    exact fun hhead => hname _ (List.mem_of_mem_head? hhead) rfl
  unfold pathIn
  rw [if_neg (ne_true_of_eq_false hrelative)]
  by_cases hdir : dir = ""
  · rw [if_pos hdir, hdir]
    exact ⟨hparts, hrelative⟩
  have hhead : ∀ rest, (dir.toList ++ rest).head? = dir.toList.head? := fun rest =>
    List.head?_append_of_ne_nil _ (mt String.toList_eq_nil_iff.mp hdir)
  rw [if_neg hdir]
  split
  next hlast =>
    -- the separator is there already, and ends the directory without a name of its own
    obtain ⟨init, hinit⟩ := List.getLast?_eq_some_iff.mp hlast
    refine ⟨?_, ?_⟩
    · rw [parts, parts, String.toList_append, hinit, List.append_assoc, List.singleton_append,
        parts_append_slash, parts_append_slash, hparts]
      simp [Text.runsOf, Text.runsFrom]
    · rw [isAbsolute, isAbsolute, String.toList_append, hhead]
  next =>
    have hslash : (dir ++ "/" ++ name).toList = dir.toList ++ '/' :: name.toList := by
      rw [String.toList_append, String.toList_append, List.append_assoc]
      rfl
    refine ⟨?_, ?_⟩
    · rw [parts, parts, hslash, parts_append_slash, hparts]
    · rw [isAbsolute, isAbsolute, hslash, hhead]

/-! ### Pictures -/

/-- A picture is stored in a directory under a plain name with the suffix of pictures. -/
def StoredIn (dir : String) (e : Evidence) : Prop :=
  ∃ base, base ≠ "" ∧ IsPlain base ∧
    parts e.filePath = parts dir ++ [(base ++ ".png").toList] ∧
    isAbsolute e.filePath = isAbsolute dir

theorem storedIn_of_fileName {moment : String} (hmoment : IsMoment moment) (dir raw : String)
    (picture : List UInt8) :
    StoredIn dir (describe (pathIn dir (fileName moment raw)) picture) := by
  obtain ⟨base, hfile, hne, hplain⟩ := exists_plain_fileName hmoment raw
  -- Without a slash the name cannot leave the directory.
  have hname : ∀ c ∈ (base ++ ".png").toList, c ≠ '/' := by
    intro c hc
    rw [String.toList_append, List.mem_append] at hc
    rcases hc with hc | hc
    · exact (hplain c hc).1
    · rintro rfl
      exact absurd hc (by decide)
  have hlong : base ++ ".png" ≠ "" := by
    intro hempty
    have hlength : (base ++ ".png").length = 0 := congrArg String.length hempty
    rw [String.length_append] at hlength
    exact absurd hlength (by simp)
  refine ⟨base, hne, hplain, ?_⟩
  rw [describe, hfile]
  exact parts_pathIn dir hlong hname

/-- A picture is stored in its directory, whatever its label is. -/
theorem capture_storedIn (hmoment : ∀ ms, IsMoment (setup.fileStamp ms)) {label : String}
    {e : Evidence} (h : (capture setup label).result d = .ok e) :
    StoredIn setup.evidenceDir e := by
  cases hblocked : d.storeBlocked with
  | true => simp [capture, hblocked] at h
  | false =>
    cases hpicture : (onPage Page.screenshot).result d with
    | error fault => simp [capture, hblocked, hpicture] at h
    | ok picture =>
      simp only [capture, result_bind, result_get, after_get, hblocked, Bool.false_eq_true,
        if_false, result_pure, hpicture] at h
      obtain rfl := Except.ok.inj h
      exact storedIn_of_fileName (hmoment _) _ _ _

/-- The operator gets a picture that is stored. -/
theorem takePicture_storedIn (hmoment : ∀ ms, IsMoment (setup.fileStamp ms)) {label : String}
    {e : Evidence} (h : (takePicture setup label).result d = .ok e) :
    StoredIn setup.evidenceDir e := by
  by_cases hpage : d.session.page.isSome
  · simp only [takePicture, result_bind, result_get, after_get, if_pos hpage] at h
    exact capture_storedIn hmoment h
  · simp [takePicture, hpage] at h

/-- The picture of a failure, if one can be taken. -/
theorem failure_fst (setup : Setup) (a : Announcement) (cause : Fault) (d : Desk) :
    (failure setup a cause d).1 = .stepFailed a.step cause
      (if d.session.page.isSome then
        ((capture setup ("error_" ++ a.step)).result d).toOption else none) := by
  by_cases hpage : d.session.page.isSome
  · rw [if_pos hpage]
    show ((ite _ _ _ : StateM Desk Fault) d).1 = _
    rw [if_pos hpage]
    let picture : Act Desk (Option Evidence) := some <$> capture setup ("error_" ++ a.step)
    show Fault.stepFailed a.step cause (picture.orUse none d).1 = _
    rw [orUse_fst, result_map]
    cases (capture setup ("error_" ++ a.step)).result d <;> rfl
  · rw [if_neg hpage]
    show ((ite _ _ _ : StateM Desk Fault) d).1 = _
    rw [if_neg hpage]
    rfl

/-! ### Commands -/

theorem result_of_announced {action : Act Desk α} {x : α}
    (h : (announced setup a action).result d = .ok x) : action.result d = .ok x := by
  unfold announced at h
  cases haction : action.result d with
  | error cause => simp [haction] at h
  | ok y =>
    cases hsilent : a.silent with
    | true => simpa [haction, hsilent] using h
    | false =>
      cases hpost : (post setup a .ok a.message).result (action.after d) with
      | error refusal => simp [haction, hsilent, hpost, Except.map] at h
      | ok u => simpa [haction, hsilent, hpost, Except.map] using h

/-- A report that succeeds answers what its action does. -/
theorem result_of_report {action : Act Desk α} {x : α}
    (h : (report setup a action).result d = .ok x) : action.result d = .ok x := by
  rw [report_eq, result_tryCatch] at h
  cases hannounced : (announced setup a action).result d with
  | error cause => simp [hannounced] at h
  | ok y =>
    rw [hannounced] at h
    exact result_of_announced (hannounced.trans h)

/-- A report that fails has the account of a failure. -/
theorem exists_failure_of_report {action : Act Desk α} {fault : Fault}
    (h : (report setup a action).result d = .error fault) :
    ∃ cause d', fault = (failure setup a cause d').1 := by
  rw [report_eq, result_tryCatch] at h
  cases hannounced : (announced setup a action).result d with
  | ok x =>
    rw [hannounced] at h
    cases h
  | error cause =>
    rw [hannounced] at h
    refine ⟨cause, (announced setup a action).after d, ?_⟩
    simpa using h.symm

/-- The picture that a failed action points to is stored in its directory, whatever the name of the
action is. -/
theorem report_storedIn (hmoment : ∀ ms, IsMoment (setup.fileStamp ms)) {action : Act Desk α}
    {step : String} {cause : Fault} {e : Evidence}
    (h : (report setup a action).result d = .error (.stepFailed step cause (some e))) :
    StoredIn setup.evidenceDir e := by
  obtain ⟨cause', d', hfault⟩ := exists_failure_of_report h
  rw [failure_fst] at hfault
  injection hfault with _ _ hevidence
  split at hevidence
  · cases hcapture : (capture setup ("error_" ++ a.step)).result d' with
    | error fault =>
      rw [hcapture] at hevidence
      cases hevidence
    | ok e' =>
      rw [hcapture] at hevidence
      obtain rfl := Option.some.inj hevidence
      exact capture_storedIn hmoment hcapture
  · cases hevidence

/-- Labels are safe, and all pictures are stored in the directory of the evidence: those that are
taken under any label, those that the operator asks for, and those of commands that fail, whatever
the name of their flow is. Loading the plan and the end of the session take no pictures. -/
theorem pictures_storedIn (setup : Setup) (hmoment : ∀ ms, IsMoment (setup.fileStamp ms)) :
    (∀ raw, 1 ≤ (label raw).length ∧ (label raw).length ≤ 48 ∧
      (∀ c ∈ (label raw).toList, isLabelChar c = true) ∧ label (label raw) = label raw) ∧
    (∀ (raw : String) (d : Desk) (e : Evidence),
      (capture setup raw).result d = .ok e → StoredIn setup.evidenceDir e) ∧
    (∀ (raw : Option String) (d : Desk) (e : Evidence),
      (perform setup (.capture raw)).result d = .ok (.evidence e) →
        StoredIn setup.evidenceDir e) ∧
    ∀ (c : Command) (d : Desk) (step : String) (cause : Fault) (e : Evidence),
      c ≠ .loadPlan → c ≠ .teardown →
        (perform setup c).result d = .error (.stepFailed step cause (some e)) →
          StoredIn setup.evidenceDir e := by
  refine ⟨fun raw => ?_, fun raw d e h => capture_storedIn hmoment h, fun raw d e h => ?_,
    fun c d step cause e hload hteardown h => ?_⟩
  · have hlabel := isLabel_label raw
    exact ⟨hlabel.length_pos, hlabel.length_le, hlabel.chars, label_of_isLabel hlabel⟩
  · have hreport : (perform setup (.capture raw)).result d = _ :=
      congrArg Prod.fst (perform_eq_report (by nofun) (by nofun) d)
    rw [hreport] at h
    have hbody := result_of_report h
    cases htaken : (takePicture setup (pictureLabel raw)).result d with
    | error fault => simp [body, htaken, Except.map] at hbody
    | ok taken =>
      obtain rfl : taken = e := by simpa [body, htaken, Except.map] using hbody
      exact takePicture_storedIn hmoment htaken
  · have hreport : (perform setup c).result d = _ :=
      congrArg Prod.fst (perform_eq_report hload hteardown d)
    rw [hreport] at h
    exact report_storedIn hmoment h

/-- The operator asks for a picture under the name of a file elsewhere, and a flow fails whose name
is a path. -/
theorem pictures_storedIn_shots :
    let setup := { smallSetup 9 with fileStamp := fun _ => "2024-05-01T12:00:00.000Z" }
    let d := (perform setup .openBrowser).after smallDesk
    (∀ ms, IsMoment (setup.fileStamp ms)) ∧
      (∃ e, (perform setup (.capture (some "../Factura 001.pdf"))).result d = .ok (.evidence e) ∧
        e.filePath = "shots/2024-05-01T12-00-00-000Z____factura_001_pdf.png" ∧
        StoredIn "shots" e) ∧
      ∃ cause e, (perform setup (.run "../../etc/x.y")).result d =
          .error (.stepFailed "../../etc/x.y" cause (some e)) ∧
        e.filePath = "shots/2024-05-01T12-00-00-000Z_error_______etc_x_y.png" ∧
        StoredIn "shots" e := by
  intro setup d
  have hstamp : IsMoment "2024-05-01T12:00:00.000Z" := by decide
  have hmoment : ∀ ms, IsMoment (setup.fileStamp ms) := fun _ => hstamp
  obtain ⟨-, -, hasked, hfailed⟩ := pictures_storedIn setup hmoment
  refine ⟨hmoment, ⟨_, rfl, ?_, hasked _ d _ rfl⟩, ⟨_, _, rfl, ?_, ?_⟩⟩
  · decide +kernel
  · decide +kernel
  · exact hfailed (.run "../../etc/x.y") d _ _ _ (by nofun) (by nofun) rfl

end FlowPilot.Desk
