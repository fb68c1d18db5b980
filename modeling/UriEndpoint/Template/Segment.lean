import UriEndpoint.Text.Blank
import UriEndpoint.Template.Error

/-!
# Path segments

The path of a template is literal text with placeholders in braces. Reading takes the text before
each opening brace as a literal, also when it is empty, and the text up to the next closing brace as
the placeholder's name, exactly as written. Rendering puts the values in place of the placeholders.
-/

namespace UriEndpoint

/-- Values for variable names; a name without a value is absent. -/
abbrev Assignment := Text → Option Text

/-- A unit of the path: literal text, or a placeholder for the value of a variable. -/
inductive Segment where
  | literal (text : Text)
  | placeholder (name : Text)
deriving DecidableEq, Repr

namespace Segment

/-- Reads a path from left to right; the first placeholder at fault is reported. -/
def scan (path : Text) : Except TemplateFault (List Segment) :=
  if path = [] then .ok []
  else
    match _ : path.cut '\x7b' with
    | (text, none) => .ok [.literal text]
    | (text, some inner) =>
        match _ : inner.cut '\x7d' with
        | (_, none) => .error .unbalancedBraces
        | ([], some _) => .error .emptyVariableName
        | (letter :: more, some rest) =>
            -- The text in front is a segment also where it is empty.
            (scan rest).map fun segments =>
              .literal text :: .placeholder (letter :: more) :: segments
termination_by path.length
decreasing_by
  rename_i outer closing
  exact Nat.lt_trans (Text.length_of_cut closing) (Text.length_of_cut outer)

/-- The segments of a path; a blank path has none. -/
def readPath (path : Text) : Except TemplateFault (List Segment) :=
  if path.isBlank then .ok [] else scan path

/-- The name that a segment asks a value for. -/
def variableName? : Segment → Option Text
  | literal _ => none
  | placeholder name => some name

/-- The text of a segment, or the value of its variable; an absent variable gives nothing. -/
def render (values : Assignment) : Segment → Text
  | literal text => text
  | placeholder name => (values name).getD []

/-- The path that segments give with these values. -/
def renderPath (segments : List Segment) (values : Assignment) : Text :=
  segments.flatMap (render values)

theorem renderPath_nil (values : Assignment) : renderPath [] values = [] := rfl

theorem renderPath_cons (segment : Segment) (segments : List Segment) (values : Assignment) :
    renderPath (segment :: segments) values =
      segment.render values ++ renderPath segments values := by
  simp [renderPath]

end Segment

end UriEndpoint
