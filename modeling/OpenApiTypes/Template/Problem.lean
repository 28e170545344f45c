/-!
# Problems of templates

The causes for which a template has no outcome.
-/
namespace OpenApiTypes.Template

/-- What is wrong with a template. -/
inductive Problem where
  | malformed
  | noSuchName
  | noSuchPosition
  | noSuchKey
  | noSuchAttribute
  | noSuchCharacter
  | notAPosition
  | noItems
  | noLayout
  | tooWide
  deriving DecidableEq, Repr

end OpenApiTypes.Template
