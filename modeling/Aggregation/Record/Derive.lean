import Aggregation.Property
import Aggregation.Record.Declaration
import Aggregation.Text.LowerCase

/-!
This module contains the derivation of records from their declarations.
-/

namespace Aggregation

structure Accessor where
  function : String
  doc : String
  property : Property
  deriving DecidableEq

structure Record where
  collection : String
  companion : String
  companionDoc : String
  visibility : Visibility
  accessors : List Accessor
  deriving DecidableEq

inductive DeclarationError where
  | unsupportedRecordSetting
  | unsupportedFieldSetting
  | noNamedFields
  | missingText
  | unexpectedText
  deriving DecidableEq

def DeclarationError.message : DeclarationError → String
  | .unsupportedRecordSetting => "unsupported record attribute, expected `collection`"
  | .unsupportedFieldSetting => "unsupported record attribute, expected `id`, `value` or `name`"
  | .noNamedFields => "Record can only be derived for structs with named fields"
  | .missingText => "expected `=`"
  | .unexpectedText => "expected `,`"

/--
The text of a setting that needs one.
-/
def Setting.requiredText (s : Setting) : Except DeclarationError String :=
  match s.text with
  | some text => return text
  | none => throw .missingText

/--
The link of a field, updated by the settings of one attribute in their order.
-/
def Link.configure (l : Link) : Attribute → Except DeclarationError Link
  | [] => return l
  | s :: rest =>
    if s.key = "id" then
      match s.text with
      | some _ => throw .unexpectedText
      | none => configure { l with identity := true } rest
    else if s.key = "value" then do
      configure { l with value := some (← s.requiredText) } rest
    else if s.key = "name" then do
      configure { l with rename := some (← s.requiredText) } rest
    else
      throw .unsupportedFieldSetting

def FieldDeclaration.link (f : FieldDeclaration) : Except DeclarationError Link :=
  f.attributes.foldlM Link.configure { declared := bareName f.name }

def FieldDeclaration.accessor (record : String) (f : FieldDeclaration) :
    Except DeclarationError Accessor := do
  let link ← f.link
  return {
    function := f.name
    doc := "The `" ++ link.declared ++ "` property of [`" ++ record ++ "`]."
    property := .root link
  }

namespace RecordDeclaration

/--
The collection that the settings of one attribute name, if they do.
-/
def configureCollection (collection : Option String) :
    Attribute → Except DeclarationError (Option String)
  | [] => return collection
  | s :: rest =>
    if s.key = "collection" then do
      configureCollection (some (← s.requiredText)) rest
    else
      throw .unsupportedRecordSetting

def collection (r : RecordDeclaration) : Except DeclarationError String := do
  let collection ← r.attributes.foldlM configureCollection none
  return collection.getD (Text.lowerFirst r.name)

def fields (r : RecordDeclaration) : Except DeclarationError (List FieldDeclaration) :=
  match r.shape with
  | .named fields => return fields
  | _ => throw .noNamedFields

def derive (r : RecordDeclaration) : Except DeclarationError Record := do
  let collection ← r.collection
  let fields ← r.fields
  let accessors ← fields.mapM (FieldDeclaration.accessor r.name)
  return {
    collection
    companion := bareName r.name ++ "Fields"
    companionDoc := "Property references for the fields of [`" ++ r.name ++ "`]."
    visibility := r.visibility
    accessors
  }

end RecordDeclaration

namespace Record

def property? (r : Record) (declared : String) : Option Property :=
  (r.accessors.map (·.property)).find? (·.leaf.declared == declared)

end Record

end Aggregation
