import Registrar.Decode.Mismatch
/-!
# Problems with YAML texts

A text can break the grammar, or it can be well formed and hold something that the record read
from it does not allow. In the second case the problem says where.
-/

set_option autoImplicit false

namespace Registrar.Yaml

inductive Fault where
  | forbiddenCharacter
  | badIndentation
  | badDirective
  | badAnchor
  | badTag
  | badEscape
  | badScalarHeader
  | tabAsIndentation
  | unfinishedQuote
  | unexpectedCharacter
  | keyNotAllowed
  | valueNotAllowed
  | entryNotAllowed
  | missingColon
  | unexpectedToken
  | unknownAnchor
deriving DecidableEq, Repr

def Fault.message : Fault → String
  | forbiddenCharacter => "control characters are not allowed"
  | badIndentation => "the indentation does not fit an open block"
  | badDirective => "the directive is malformed or not supported"
  | badAnchor => "the anchor or alias has no proper name"
  | badTag => "the tag is malformed"
  | badEscape => "the quoted scalar holds an unknown escape"
  | badScalarHeader => "the header of the block scalar is malformed"
  | tabAsIndentation => "a tab stands where indentation is expected"
  | unfinishedQuote => "the quoted scalar has no end"
  | unexpectedCharacter => "no token starts with this character"
  | keyNotAllowed => "mapping keys are not allowed here"
  | valueNotAllowed => "mapping values are not allowed here"
  | entryNotAllowed => "block sequence entries are not allowed here"
  | missingColon => "could not find the expected colon"
  | unexpectedToken => "the token does not fit the structure around it"
  | unknownAnchor => "unknown anchor"

inductive Problem where
  | malformed (fault : Fault)
  | mismatch (path : String) (cause : Mismatch)
  | tooManyAliases
  | nestedTooDeep
  | severalDocuments
  | custom (message : String)
deriving DecidableEq, Repr

/-- The wording of a problem. A mismatch at the root has no path. -/
def Problem.message : Problem → String
  | malformed fault => fault.message
  | mismatch path cause =>
      if path = "" then cause.message .value else path ++ ": " ++ cause.message .value
  | tooManyAliases => "repetition limit exceeded"
  | nestedTooDeep => "recursion limit exceeded"
  | severalDocuments => "deserializing from YAML containing more than one document is not supported"
  | custom message => message

end Registrar.Yaml
