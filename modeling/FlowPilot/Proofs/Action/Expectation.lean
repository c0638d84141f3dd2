import FlowPilot.Action.Expectation
import FlowPilot.Proofs.Page.Time

/-!
# When a page is as expected

A step that waits for a page to be as expected judges the page as it is at one instant. It reads the
address, an element and the text of the page one after the other, but no time passes in between.

## Main definitions

* `Expectation.Condition`: a single condition on a page.
* `Expectation.MetBy`: a page meets all conditions of a list.
* `Expectation.unmetAt`: what is reported of those that a page does not meet.
* `Step.AssertOnPage.conditions`: the conditions of a step.

## Main statements

* `Expectation.unmet_fst`: a look at a page reports the conditions that the page does not meet.
* `Step.AssertOnPage.perform_of_calm`: when a step succeeds, and what it reports if it fails.
-/

namespace FlowPilot

open Act Page

namespace Expectation

/-! ### Conditions -/

/-- A single condition on a page. -/
inductive Condition
  /-- the address matches a pattern, which is given with its text -/
  | url (pattern : Pattern) (text : String)
  /-- the first element of a locator is visible -/
  | visible (target : Locator)
  /-- one of some texts in normal form is in the text of the page -/
  | anyText (texts : List String)

def Condition.holds (p : Page) : Condition → Bool
  | url pattern _ => pattern.occursIn p.url
  | visible target => (p.dom.first? target).any p.dom.isVisible
  | anyText texts =>
    texts.any (Text.contains (Text.normal (p.dom.visibleTextOf Dom.root)))

/-- What is reported of a condition that a page does not meet. -/
def Condition.unmet (p : Page) : Condition → Unmet
  | url _ text => .url p.url text
  | visible target => .selector target
  | anyText texts => .anyText texts

/-- A page meets all conditions of a list. -/
def MetBy (conditions : List Condition) (p : Page) : Prop := ∀ c ∈ conditions, c.holds p = true

instance (conditions : List Condition) (p : Page) : Decidable (MetBy conditions p) :=
  inferInstanceAs (Decidable (∀ c ∈ conditions, c.holds p = true))

/-- What is reported of the conditions of a list that a page does not meet, in their order. -/
def unmetAt (conditions : List Condition) (p : Page) : List Unmet :=
  (conditions.filter fun c => !c.holds p).map (Condition.unmet p)

/-- The conditions of an expectation, in the order in which they are looked at. -/
def conditions (e : Expectation) : List Condition :=
  (e.url.map fun (pattern, text) => .url pattern text).toList ++
    (e.element.map .visible).toList ++ if e.anyText.isEmpty then [] else [.anyText e.anyText]

variable {e : Expectation} {l l' : List Condition} {p q : Page}

theorem unmetAt_append : unmetAt (l ++ l') p = unmetAt l p ++ unmetAt l' p := by
  rw [unmetAt, List.filter_append, List.map_append]
  rfl

theorem unmetAt_singleton (c : Condition) :
    unmetAt [c] p = if c.holds p then [] else [c.unmet p] := by
  cases hholds : c.holds p <;> simp [unmetAt, hholds]

theorem unmetAt_eq_nil_iff : unmetAt l p = [] ↔ MetBy l p := by
  simp [unmetAt, MetBy]

theorem Condition.holds_alike (h : Alike p q) (c : Condition) : c.holds q = c.holds p := by
  cases c <;> simp only [Condition.holds, h.url, h.dom]

theorem Condition.unmet_alike (h : Alike p q) (c : Condition) : c.unmet q = c.unmet p := by
  cases c <;> simp only [Condition.unmet, h.url]

theorem unmetAt_alike (h : Alike p q) : unmetAt l q = unmetAt l p := by
  simp only [unmetAt, Condition.holds_alike h, funext (Condition.unmet_alike h)]

/-! ### Looking -/

theorem bodyText_alike : Leads Alike bodyText :=
  operation_leads counted_alike _ (Leads.get.bind fun _ => Leads.pure _)

theorem unmetUrl_alike (e : Expectation) : Moves Alike e.unmetUrl := by
  unfold unmetUrl
  split
  · exact Moves.pure _
  · exact (currentUrl_alike.orUse "").bind fun _ => Moves.pure _

theorem unmetElement_alike (e : Expectation) : Moves Alike e.unmetElement := by
  unfold unmetElement
  split
  · exact Moves.pure _
  · exact ((isVisible_alike _).orUse false).bind fun _ => Moves.pure _

theorem unmetText_alike (e : Expectation) : Moves Alike e.unmetText := by
  refine Moves.ite (Moves.pure _) ?_
  exact (bodyText_alike.orUse "").bind fun _ => Moves.pure _

theorem unmet_alike (e : Expectation) : Moves Alike e.unmet :=
  e.unmetUrl_alike.bind fun _ => e.unmetElement_alike.bind fun _ =>
    e.unmetText_alike.bind fun _ => Moves.pure _

theorem unmetUrl_fst (hcalm : p.Calm) (e : Expectation) :
    (e.unmetUrl p).1 = unmetAt (e.url.map fun (pattern, text) => .url pattern text).toList p := by
  have hurl : (currentUrl.orUse "" p).1 = p.url := by
    rw [orUse_fst, currentUrl, result_operation, hcalm.strikesNext]
    rfl
  rw [unmetUrl]
  rcases e.url with _ | ⟨pattern, text⟩
  · rfl
  · rw [Option.map_some, Option.toList_some, unmetAt_singleton]
    dsimp only
    rw [bind_apply, hurl]
    rfl

theorem unmetElement_fst (hcalm : p.Calm) (e : Expectation) :
    (e.unmetElement p).1 = unmetAt (e.element.map .visible).toList p := by
  rw [unmetElement]
  cases e.element with
  | none => rfl
  | some target =>
    rw [Option.map_some, Option.toList_some, unmetAt_singleton]
    dsimp only
    rw [bind_apply, isVisible_orUse_fst, hcalm.strikesNext]
    rfl

theorem unmetText_fst (hcalm : p.Calm) (e : Expectation) :
    (e.unmetText p).1 = unmetAt (if e.anyText.isEmpty then [] else [.anyText e.anyText]) p := by
  have hbody : (bodyText.orUse "" p).1 = p.dom.visibleTextOf Dom.root := by
    rw [orUse_fst, bodyText, result_operation, hcalm.strikesNext]
    rfl
  rw [unmetText]
  split
  · rfl
  · rw [unmetAt_singleton, bind_apply, hbody]
    rfl

/-- A look at a page reports the conditions that the page does not meet. -/
theorem unmet_fst (hcalm : p.Calm) (e : Expectation) :
    (e.unmet p).1 = unmetAt e.conditions p := by
  have hurl := e.unmetUrl_alike p
  have helement := trans_of Alike hurl (e.unmetElement_alike _)
  rw [conditions, unmetAt_append, unmetAt_append, ← unmetUrl_fst hcalm,
    ← unmetAt_alike hurl, ← unmetElement_fst (hurl.calm hcalm), ← unmetAt_alike helement,
    ← unmetText_fst (helement.calm hcalm)]
  rfl

theorem check_eq (e : Expectation) (p : Page) :
    e.check p = (if (e.unmet p).1 = [] then .ok (some ()) else .error (e.unmet p).1,
      (e.unmet p).2) := by
  rw [check, bind_apply]
  cases (e.unmet p).1 <;> rfl

theorem check_alike (e : Expectation) : Moves Alike e.check := by
  intro p
  rw [check_eq]
  exact e.unmet_alike p

/-- Looking at a page before does not change what a look finds. -/
theorem check_of_metBy (hcalm : p.Calm) (hpq : Alike p q) (hmet : MetBy e.conditions p) :
    (e.check q).1 = .ok (some ()) := by
  rw [check_eq, unmet_fst (hpq.calm hcalm), unmetAt_alike hpq, unmetAt_eq_nil_iff.mpr hmet]
  rfl

theorem check_of_not_metBy (hcalm : p.Calm) (hpq : Alike p q) (hunmet : ¬MetBy e.conditions p) :
    (e.check q).1 = .error (unmetAt e.conditions p) := by
  rw [check_eq, unmet_fst (hpq.calm hcalm), unmetAt_alike hpq]
  exact if_neg (unmetAt_eq_nil_iff.not.mpr hunmet)

end Expectation

/-! ### Steps -/

namespace Step.AssertOnPage

open Expectation

variable {s : AssertOnPage} {e : Expectation} {p : Page} {host : Host} {timeout interval : Nat}

/-- The pattern of a step is well-formed, if it has one. -/
def PatternIsValid (s : AssertOnPage) : Prop :=
  ∀ text, s.urlPattern.bind Text.trimmed? = some text → (Pattern.ofText? text).isSome

/-- What a step expects, as far as it is well-formed. -/
def expectation (s : AssertOnPage) : Expectation where
  url := (s.urlPattern.bind Text.trimmed?).bind fun text =>
    (Pattern.ofText? text).map fun pattern => (pattern, text)
  element := (s.selector.bind Text.trimmed?).map targetOf
  anyText := (s.anyText.map Text.normal).filter (· ≠ "")

/-- The conditions of a step. -/
def conditions (s : AssertOnPage) : List Condition := s.expectation.conditions

theorem conditions_eq_nil_iff : e.conditions = [] ↔
    (e.url.isNone && e.element.isNone && e.anyText.isEmpty) = true := by
  rcases e with ⟨_ | url, _ | element, _ | _⟩ <;> simp [Expectation.conditions]

theorem ofStep_of_patternIsValid (w : Wording) (hvalid : s.PatternIsValid) :
    ofStep w s =
      if (s.expectation.url.isNone && s.expectation.element.isNone &&
        s.expectation.anyText.isEmpty) = true then .error (.config .noExpectation)
      else .ok s.expectation := by
  unfold ofStep expectation
  cases htext : s.urlPattern.bind Text.trimmed? with
  | none => rfl
  | some text =>
    obtain ⟨pattern, hpattern⟩ := Option.isSome_iff_exists.mp (hvalid text htext)
    simp only [UrlCriterion.patternOf, Option.bind_some, hpattern]
    rfl

/-- A well-formed step with a condition is not refused. -/
theorem ofStep_eq_ok (w : Wording) (hvalid : s.PatternIsValid) (hsome : s.conditions ≠ []) :
    ofStep w s = .ok s.expectation := by
  rw [ofStep_of_patternIsValid w hvalid, if_neg (conditions_eq_nil_iff.not.mp hsome)]

/-- A step that is not refused ends as its poll does. -/
theorem perform_apply (h : ofStep host.wording s = .ok e) (timeout interval : Nat) (p : Page) :
    s.perform host timeout interval p =
      match Poll.upTo host.patience timeout interval e.check p with
      | (.found _, q) => (.ok (), q)
      | (.timedOut _ last, q) => (.error (.assertionFailed (last.getD [])), q)
      | (.unfinished, q) =>
        (.error (.page Kind.assertOnPage.name .endless), { q with stuck := true }) := by
  rw [perform, h, ofExcept_ok_bind, lift_bind_apply]
  rcases Poll.upTo host.patience timeout interval e.check p with ⟨_ | _ | _, q⟩ <;> rfl

/-- A step ends at the first instant at which all its conditions hold, or at the end of its time. -/
theorem perform_ends (hcalm : p.Calm) (h : ofStep host.wording s = .ok e) (timeout : Nat)
    (hinterval : 0 < interval) :
    ∃ k ≤ Poll.lastNumber timeout interval,
      (∀ j < k, ¬MetBy e.conditions (Poll.waited timeout interval p j)) ∧
      Alike (Poll.waited timeout interval p k) ((s.perform host timeout interval).after p) ∧
      (MetBy e.conditions (Poll.waited timeout interval p k) ∧
          (s.perform host timeout interval).result p = .ok () ∨
        ¬MetBy e.conditions (Poll.waited timeout interval p k) ∧
          k = Poll.lastNumber timeout interval ∧
          (s.perform host timeout interval).result p =
            .error
              (.assertionFailed (unmetAt e.conditions (Poll.waited timeout interval p k)))) := by
  have hinstant : ∀ t, Clock.now (e.check t).2 = Clock.now t := fun t => (e.check_alike t).clock
  have hstarted := started_alike e.check_alike timeout interval p
  have hquiet := fun j => (waited_idles timeout interval p j).calm hcalm
  obtain ⟨k, hk, hbefore, hlast, hrun⟩ :=
    Poll.upTo_of_instant hinstant host.patience timeout p hinterval
  have hended := trans_of Alike (hstarted k) (e.check_alike _)
  have happly := perform_apply h timeout interval p
  rw [hrun] at happly
  refine ⟨k, hk, fun j hj hmet => ?_, ?_⟩
  · have hnothing := hbefore j hj
    rw [check_of_metBy (hquiet j) (hstarted j) hmet] at hnothing
    cases hnothing
  -- The check reads the page as it is at that instant, as nothing is struck.
  by_cases hmet : MetBy e.conditions (Poll.waited timeout interval p k)
  · rw [Poll.endAt_of_found (check_of_metBy (hquiet k) (hstarted k) hmet)] at happly
    refine ⟨?_, .inl ⟨hmet, congrArg Prod.fst happly⟩⟩
    rw [after, happly]
    exact hended
  · have hfailed := check_of_not_metBy (hquiet k) (hstarted k) hmet
    rw [Poll.endAt_of_failure hfailed] at happly
    refine ⟨?_, .inr ⟨hmet, hlast ?_, congrArg Prod.fst happly⟩⟩
    · rw [after, happly]
      exact hended
    · rw [hfailed]
      rfl

theorem perform_ok_iff (hcalm : p.Calm) (h : ofStep host.wording s = .ok e) (timeout : Nat)
    (hinterval : 0 < interval) :
    (s.perform host timeout interval).result p = .ok () ↔
      ∃ k ≤ Poll.lastNumber timeout interval,
        MetBy e.conditions (Poll.waited timeout interval p k) := by
  obtain ⟨k, hk, hbefore, -, hend⟩ := perform_ends hcalm h timeout hinterval
  constructor
  · intro hok
    rcases hend with ⟨hmet, -⟩ | ⟨-, -, hfailed⟩
    · exact ⟨k, hk, hmet⟩
    · cases hok.symm.trans hfailed
  · rintro ⟨j, hj, hmet⟩
    rcases hend with ⟨-, hok⟩ | ⟨hunmet, rfl, -⟩
    · exact hok
    · -- nothing holds before the last instant, nor at it
      rcases Nat.lt_or_eq_of_le hj with hlt | rfl
      · exact absurd hmet (hbefore j hlt)
      · exact absurd hmet hunmet

/-- A page that shows its panel for a while, and opens another address after that. -/
def restlessPage : Page :=
  let timer (id : String) (effect : Element.Effect) (dom : Dom) : Dom :=
    dom.add Dom.root { tag := "timer", id := some id, hidden := true, onClick := [effect] }
  { Page.opened "https://portal/inicio" with
    dom := Dom.empty.add Dom.root { tag := "div", id := some "panel", hidden := true }
      |> timer "timer0" (.uncover 1)
      |> timer "timer1" (.cover 1)
      |> timer "timer2" (.navigate "https://portal/perfil")
    schedule :=
      [⟨15, Locator.ofSelector "#timer0"⟩, ⟨25, Locator.ofSelector "#timer1"⟩,
        ⟨30, Locator.ofSelector "#timer2"⟩] }

end Step.AssertOnPage

end FlowPilot
