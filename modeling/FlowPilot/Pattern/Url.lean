import FlowPilot.Fault
import FlowPilot.Host
import FlowPilot.Pattern.Glob
import FlowPilot.Pattern.Parser
import FlowPilot.Step.Basic
import FlowPilot.Text.Search

/-!
# Which address is waited for

## Main definitions

* `UrlCriterion`: an address, a glob or a pattern.
* `UrlCriterion.ofStep`: the criterion of a step.
* `UrlCriterion.accepts`: whether an address meets it.
-/

namespace FlowPilot

/-- What an address must be. -/
inductive UrlCriterion
  | exactly (url : String)
  | glob (g : Glob)
  | pattern (p : Pattern)
  deriving DecidableEq, Repr

namespace UrlCriterion

/-- The pattern with a text, or the issue that it is malformed. -/
def patternOf (w : Wording) (place text : String) : Except Fault Pattern :=
  match Pattern.ofText? text with
  | some p => .ok p
  | none => .error (.config (.urlPattern place (w.pattern text)))

/-- The criterion of a step. The address goes before the pattern; one of them must be given. -/
def ofStep (w : Wording) (s : Step.WaitForUrl) : Except Fault UrlCriterion :=
  match s.url.bind Text.trimmed? with
  -- A star is never a star of an address: there is no escape.
  | some url => .ok (if url.toList.contains '*' then glob (.ofText url) else exactly url)
  | none =>
    match s.pattern.bind Text.trimmed? with
    | some text => (patternOf w "waitForURL pattern" text).map pattern
    | none => .error (.missingField "step.url|step.pattern")

def accepts : UrlCriterion → String → Bool
  | exactly expected, url => url == expected
  | glob g, url => g.matchesText url
  | pattern p, url => p.occursIn url

end UrlCriterion

end FlowPilot
