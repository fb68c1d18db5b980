import UriEndpoint.Text.Quoted

/-!
# Faults of a template

A template that breaks a rule of the template language is refused with the first broken rule. A
fault says what was found; its rule has a stable code, so that a caller can tell rules apart without
reading messages, and the message ends with the whole template when that is known.
-/

namespace UriEndpoint

/-- The rules that a template can break; `general` and `malformed` stand for families of rules. -/
inductive TemplateRule where
  | general
  | malformed
  | missing
  | unbalancedBraces
  | malformedQuery
  | duplicateVariable
  | emptyVariableName
deriving DecidableEq, Repr

namespace TemplateRule

/-- The stable code of a rule. -/
def code : TemplateRule → Text
  | general => "TEMPLATE_ERROR".toList
  | malformed => "MALFORMED_TEMPLATE".toList
  | missing => "MISSING_TEMPLATE".toList
  | unbalancedBraces => "UNBALANCED_BRACES".toList
  | malformedQuery => "MALFORMED_QUERY".toList
  | duplicateVariable => "DUPLICATE_VARIABLE".toList
  | emptyVariableName => "EMPTY_VARIABLE_NAME".toList

/-- The families that a rule belongs to, narrowest first, itself included. -/
def families : TemplateRule → List TemplateRule
  | general => [general]
  | malformed => [malformed, general]
  | rule => [rule, malformed, general]

end TemplateRule

/-- What was found to be wrong with a template. -/
inductive TemplateFault where
  /-- There is no template. -/
  | missing
  /-- A brace opens a placeholder that no brace closes. -/
  | unbalancedBraces
  /-- A placeholder encloses nothing. -/
  | emptyVariableName
  /-- A query clause has no equals sign. -/
  | missingEquals (clause : Text)
  /-- One side of a query clause is empty once trimmed. -/
  | missingName (clause : Text)
  /-- A variable name is used a second time. -/
  | repeatedVariable (name : Text)
  /-- A rule was reported broken in the reporter's own words. -/
  | reported (rule : TemplateRule) (words : Text)
deriving DecidableEq, Repr

namespace TemplateFault

/-- The rule that a fault breaks. -/
def rule : TemplateFault → TemplateRule
  | missing => .missing
  | unbalancedBraces => .unbalancedBraces
  | emptyVariableName => .emptyVariableName
  | missingEquals _ => .malformedQuery
  | missingName _ => .malformedQuery
  | repeatedVariable _ => .duplicateVariable
  | reported rule _ => rule

/-- The fault in words, without the template. -/
def words : TemplateFault → Text
  | missing => "Template string is required".toList
  | unbalancedBraces => "Mismatched braces in URI template string".toList
  | emptyVariableName => "Empty variable name between braces".toList
  | missingEquals clause => "Missing equals-sign in query clause ".toList ++ clause.quoted
  | missingName clause => "Missing name or identifier in query clause ".toList ++ clause.quoted
  | repeatedVariable name => "Duplicate variable name: ".toList ++ name.quoted
  | reported _ words => words

end TemplateFault

/-- A fault together with the template it was found in, when that is known. -/
structure TemplateError where
  fault : TemplateFault
  template : Option Text
deriving DecidableEq, Repr

/-- The fault in words, followed by the template in parentheses when it is known. -/
def TemplateError.message (error : TemplateError) : Text :=
  error.fault.words ++
    match error.template with
    | none => []
    | some template => " (template: ".toList ++ template.quoted ++ [')']

end UriEndpoint
