import SiteAudit.Template.Basic

/-!
# Rules of the catalog

A rule has a code, a category, a severity, and a message with fields for what is
particular to a finding.  Filling the message needs a value for each of its
fields and ignores other values.  Two names are reserved where more than values
is passed on: the name of the rule itself, and that of the line of a finding.
-/

namespace SiteAudit

/-- The two severities that the catalog uses.  A finding of any other severity
is no error either. -/
def Severity.error : String := "error"

@[inherit_doc Severity.error]
def Severity.warning : String := "warning"

structure Rule where
  code : String
  category : String
  message : String
  severity : String := Severity.error
  deriving DecidableEq, Repr

inductive MessageError
  | unknownRule (code : String)
  | missingValues (code : String) (names : List String)
  | reservedByRule
  | reservedByFinding
  | template (e : Template.Error)
  deriving DecidableEq, Repr

def MessageError.message : MessageError → String
  | unknownRule code => "Unknown rule code " ++ Text.quoted code
  | missingValues code names =>
      "Rule " ++ code ++ " message needs values for: " ++ ", ".intercalate names
  | reservedByRule => "Rule.render() got multiple values for argument 'self'"
  | reservedByFinding =>
      "sitelint.types.Finding.from_rule() got multiple values for keyword argument 'line'"
  | template e => e.message

namespace Rule

def placeholders (r : Rule) : Except MessageError (List String) :=
  match Template.placeholders (Template.parse r.message.toList) with
  | .error e => .error (.template e)
  | .ok names => .ok names

/-- The message filled with values.  Fields are filled with the values of the
message's own field names only. -/
def render (r : Rule) (values : List (String × Template.Value)) :
    Except MessageError String :=
  match r.placeholders with
  | .error e => .error e
  | .ok names =>
      let missing := names.filter fun name => (values.lookup name).isNone
      if missing.isEmpty then
        let known := values.filter (names.contains ·.1)
        match Template.fill known Template.maxDepth
          (Template.parse r.message.toList) with
        | .error e => .error (.template e)
        | .ok text => .ok (String.ofList text)
      else .error (.missingValues r.code missing)

/-- The name under which a rule itself is passed on; no value may have it when a
rule fills its own message. -/
def ownName : String := "self"

def renderSelf (r : Rule) (values : List (String × Template.Value)) :
    Except MessageError String :=
  if (values.lookup ownName).isSome then .error .reservedByRule
    else r.render values

end Rule

end SiteAudit
