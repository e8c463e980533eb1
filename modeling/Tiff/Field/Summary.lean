-- Fields in one line. The short form of a line shows the start of a long value,
-- with three dots behind it; the full form shows all of it.

import Tiff.Field

namespace Tiff.Field

/-- The most elements that a preview shows. -/
def previewItems : Nat := 10

/-- The most characters that a preview shows. -/
def previewWidth : Nat := 40

/-- How many texts fit into a room, one after the other, with a blank behind each. -/
def countFitting : Nat → List String → Nat
  | _, [] => 0
  | room, text :: texts =>
    let width := text.utf8ByteSize + 1
    if width ≤ room then countFitting (room - width) texts + 1 else 0

/-- The texts that a preview of a list shows: those that fit, but at least the first. -/
def preview (texts : List String) : List String :=
  texts.take (max 1 (countFitting previewWidth (texts.take previewItems)))

/-- Texts between brackets, with a blank between two of them. -/
def bracket (texts : List String) : String := "[" ++ " ".intercalate texts ++ "]"

/-- A list of elements in words. A single element stands alone. -/
def summarizeList (full : Bool) : List String → String
  | [text] => text
  | texts =>
    if full then bracket texts
    else
      let shown := preview texts
      bracket shown ++ (if shown.length < texts.length then "..." else "")

def summarizeText (full : Bool) (text : String) : String :=
  if !full && previewWidth < text.length then
    Text.quote (String.ofList (text.toList.take previewWidth)) ++ "..."
  else Text.quote text

def summarize (field : Field) (full : Bool) : String :=
  match field.value with
  | .ascii text => summarizeText full text
  | _ => summarizeList full field.texts

def line (field : Field) (full : Bool) : String :=
  let tag := field.tagId.toNat
  let type := field.type.id.toNat
  String.join [
    "<Tag: (0x", Text.zeroPad 4 (Text.hex tag), "/", Text.zeroPad 5 (toString tag), ") ",
    field.tag.name,
    "\tType: (", Text.zeroPad 2 (toString type), ") ", field.type.name,
    "\tCount: ", toString field.count,
    "\tOffset: ", toString field.offset,
    "\tValue: ", field.summarize full, ">"]

end Tiff.Field
