import FlowPilot.Step.Basic

/-!
# Steps as templates

## Main definitions

* `Step.toJson`: a step with all its fields; absent ones are null.
-/

namespace FlowPilot.Step

open Json (orNull texts)

/-- The members of a step that acts on the page, without kind and time. -/
def Leaf.members : Leaf → Json.Members
  | .goto s =>
    [("url", orNull .text s.url), ("waitUntil", orNull (.text ·.name) s.waitUntil)]
  | .click s => [("selector", orNull .text s.selector)]
  | .clickAny s => [("selectors", texts s.selectors), ("logUrl", .bool s.logUrl)]
  | .fill s => [("selector", orNull .text s.selector), ("text", orNull .text s.text)]
  | .select s =>
    [("selector", orNull .text s.selector), ("value", orNull .text s.value),
     ("label", orNull .text s.label), ("text", orNull .text s.text)]
  | .waitForSelector s =>
    [("selector", orNull .text s.selector), ("state", orNull (.text ·.name) s.state)]
  | .waitForUrl s => [("url", orNull .text s.url), ("pattern", orNull .text s.pattern)]
  | .expectText s => [("selector", orNull .text s.selector), ("text", orNull .text s.text)]
  | .press s => [("selector", orNull .text s.selector), ("key", orNull .text s.key)]
  | .assertOnPage s =>
    [("urlPattern", orNull .text s.urlPattern), ("selector", orNull .text s.selector),
     ("anyText", texts s.anyText)]
  | .clickRowAction s =>
    [("table", orNull .text s.table), ("rowText", orNull .text s.rowText),
     ("actionSelectors", texts s.actionSelectors), ("fallbackClick", .bool s.fallbackClick),
     ("logUrl", .bool s.logUrl)]
  | .clickTableCellLink s =>
    [("table", orNull .text s.table), ("rowText", orNull .text s.rowText),
     ("cellText", orNull .text s.cellText), ("cellIndex", orNull .text s.cellIndex),
     ("match", orNull .text s.matchMode), ("targetSelectors", texts s.targetSelectors),
     ("linkSelectors", texts s.linkSelectors), ("fallbackClick", .bool s.fallbackClick),
     ("logUrl", .bool s.logUrl)]
  | .ensureSidebarOpen s =>
    [("selector", orNull .text s.selector), ("toggleSelector", orNull .text s.toggleSelector),
     ("toggleSelectors", texts s.toggleSelectors),
     ("minWidth", orNull (fun w => .number (.real w)) s.minWidth)]

/-- The members of a step besides its kind. -/
def members : Step → Json.Members
  | .leaf s => s.members ++ [("timeout", orNull .nat s.timeout)]
  | .trySteps s =>
    [("steps", .array s.steps), ("fallbackSteps", .array s.fallbackSteps),
     ("timeout", orNull .nat s.timeout)]
  | .runAction s =>
    [("action", orNull .text s.action), ("actionName", orNull .text s.actionName),
     ("name", orNull .text s.name), ("vars", .object s.vars)]

/-- A step as a template with all its fields. -/
def toJson (s : Step) : Json := .ofMembers (("type", .text s.kind.name) :: s.members)

end FlowPilot.Step
