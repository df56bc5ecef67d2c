/-!
# Sorting texts

Texts are sorted by their bytes in UTF-8.
-/

namespace PathTemplate.Text

/-- The bytes of a text in UTF-8. -/
def bytes (text : String) : List UInt8 :=
  text.toUTF8.data.toList

def sortByBytes (texts : List String) : List String :=
  texts.mergeSort fun left right => bytes left ≤ bytes right

end PathTemplate.Text
