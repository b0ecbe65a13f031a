import KeyCustody.Config.Settings
import KeyCustody.Yaml.Document

set_option autoImplicit false

namespace KeyCustody

namespace Settings

def sectionName : String := "cbsigner"

def entriesOf (document : Value) : Except Fault Value.Entries :=
  match if document.isVoid then .mapping [] else document with
  | .mapping entries =>
    match Value.field? entries sectionName with
    | none => .ok entries
    | some (.mapping inner) => .ok inner
    | some _ => .error .notSection
  | _ => .error .notMapping

def defaultPath : String := "config/cbsigner.yaml"

def readFile (content : Bytes) : Except Fault Value :=
  match Text.decodeUtf8? content with
  | none => .error .notUtf8
  | some text => Yaml.read (Text.unifyLines text)

def ofContent (content : Bytes) (around : Surroundings) : Except Fault Settings := do
  make (← entriesOf (← readFile content)) around

def load (path : Text) (around : Surroundings) : Except Fault Settings := do
  match ← around.place path with
  | none => throw (.missingFile (FilePath.ofText path).text)
  | some place =>
    if place.isFolder then throw .folder
    ofContent (if place = .document then around.document.getD [] else []) around

end Settings

end KeyCustody
