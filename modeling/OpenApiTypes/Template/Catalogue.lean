import OpenApiTypes.Template.Catalogue.Collection
import OpenApiTypes.Template.Catalogue.Number
import OpenApiTypes.Template.Catalogue.Operation
import OpenApiTypes.Template.Catalogue.Text
import OpenApiTypes.Template.Catalogue.Type
import OpenApiTypes.Template.Kind

/-!
# What kinds hold

Every kind holds features of its own, in an order. A name is looked up along the line of a kind, so
a feature hides those of the same name that are held further up.
-/
namespace OpenApiTypes.Template.Kind

/-- The features that a kind holds itself. -/
def features : Kind → List Feature
  | text => Catalogue.texts
  | number => Catalogue.numbers
  | truth => Catalogue.truths
  | row => Catalogue.rows
  | table => Catalogue.tables
  | view => Catalogue.views
  | nothing => Catalogue.nothing
  | any => Catalogue.values
  | type => Catalogue.types
  | appliedType => Catalogue.appliedTypes
  | operation => Catalogue.operations
  | rule => Catalogue.rules
  | typeOperation => Catalogue.typeOperations
  | freeOperation => Catalogue.freeOperations
  | property => Catalogue.properties
  | component => Catalogue.components
  | boundOperation => Catalogue.boundOperations
  | boundRule => Catalogue.boundRules

/-- The feature that a kind holds itself under a name. -/
def own? (kind : Kind) (name : String) : Option Feature :=
  kind.features.find? fun feature => feature.name == name

/-- The feature that the line of a kind holds under a name, with the nearest kind that holds it. -/
def feature? (kind : Kind) (name : String) : Option (Kind × Feature) :=
  kind.lineage.findSome? fun holder => (holder.own? name).map fun feature => (holder, feature)

end OpenApiTypes.Template.Kind
