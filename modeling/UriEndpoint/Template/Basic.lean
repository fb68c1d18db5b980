import UriEndpoint.Template.Param

/-!
# URI templates

A template has three regions: a path, a query after its first question mark and a fragment after its
first number sign. It is read once, and every variable name may be used only once across path and
query. Building puts values into the template and always writes the question mark; the fragment is
written when it is not empty.
-/

namespace UriEndpoint

/-- The three regions of a template as written. -/
structure Regions where
  path : Text
  query : Text
  fragment : Text
deriving DecidableEq, Repr

/-- Any text has regions: one leading slash is dropped, the number sign is looked for first. -/
def Regions.ofText (text : Text) : Regions :=
  let outer := (text.withoutLeading '/').cut '#'
  let inner := outer.1.cut '?'
  { path := inner.1, query := inner.2.getD [], fragment := outer.2.getD [] }

/-- The variable names of a path and a query, in template order. -/
def variableNames (segments : List Segment) (params : List Param) : List Text :=
  segments.filterMap Segment.variableName? ++ params.map Param.varName

/-- The first name that repeats one of `seen` or one before it. -/
def firstRepeatAfter (seen : List Text) : List Text → Option Text
  | [] => none
  | name :: rest => if name ∈ seen then some name else firstRepeatAfter (name :: seen) rest

/-- The first name that repeats a name before it. -/
def firstRepeat (names : List Text) : Option Text := firstRepeatAfter [] names

/-- Refuses a variable name that is used a second time. -/
def checkUniqueness (segments : List Segment) (params : List Param) : Except TemplateFault Unit :=
  match firstRepeat (variableNames segments params) with
  | some name => .error (.repeatedVariable name)
  | none => .ok ()

/-- The URI that segments, parameters and a fragment give with these values. -/
def buildUri (segments : List Segment) (params : List Param) (fragment : Text)
    (values : Assignment) : Text :=
  Segment.renderPath segments values ++ '?' :: Param.renderQuery params values ++
    if fragment = [] then [] else '#' :: fragment

/-- A template that has been read: its tokens, and the text it was read from. -/
structure Template where
  source : Text
  segments : List Segment
  params : List Param
  fragment : Text
deriving DecidableEq, Repr

namespace Template

/-- The tokens of a template: path faults come before query faults, repeated names last. -/
def parse (source : Text) : Except TemplateFault Template := do
  let regions := Regions.ofText source
  let segments ← Segment.readPath regions.path
  let params ← Param.readQuery regions.query
  checkUniqueness segments params
  return { source, segments, params, fragment := regions.fragment }

/-- Reads a template; a fault is reported together with the template's text. -/
def read (source : Text) : Except TemplateError Template :=
  (parse source).mapError fun fault => { fault, template := some source }

/-- Reads a template that may be absent. -/
def read? : Option Text → Except TemplateError Template
  | none => .error { fault := .missing, template := none }
  | some source => read source

/-- The variable names of a template, those of the path first. -/
def names (template : Template) : List Text := variableNames template.segments template.params

/-- The URI that the template gives with these values. -/
def build (template : Template) (values : Assignment) : Text :=
  buildUri template.segments template.params template.fragment values

/-- Whether two templates are the same, which is told by the texts they were read from. -/
def isSame (template other : Template) : Bool := template.source == other.source

/-- The template shown as a call with its quoted text. -/
def shown (template : Template) : Text :=
  "UriTemplate(".toList ++ template.source.quoted ++ [')']

end Template

end UriEndpoint
