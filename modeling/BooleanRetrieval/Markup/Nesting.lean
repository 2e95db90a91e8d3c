/-!
# Nesting of hypertext elements

Closing tags may be left out in hypertext: some opening tags end the element that they stand in, and
some elements that a document does not open are there nevertheless. A closing tag cannot reach an
element through one that resists more.
-/

set_option autoImplicit false

namespace BooleanRetrieval.Markup

/-- The headings. -/
def headings : List String := ["h1", "h2", "h3", "h4", "h5", "h6"]

/-- Elements of text that comes as it is laid out. -/
def layoutElements : List String := ["pre", "listing", "xmp"]

/-- Elements that only change the face of the letters. -/
def faceElements : List String := ["tt", "i", "b", "u", "s", "strike", "big", "small"]

/-- The lists that stand at the side of a text. -/
def sideLists : List String := ["menu", "dir"]

/-- The elements that may stand at the beginning of a table. -/
def tableHeads : List String := ["caption", "col", "colgroup"]

/-- The elements in a table that each tag ends when it stands directly in them. -/
def endedInTables : List (String × List String) :=
  let cells : List String := ["td", "th"]
  let inCells : List String := ["p", "span", "font", "a", "b", "u"]
  [("caption", ["p"]),
   ("colgroup", tableHeads ++ ["p"]),
   ("col", ["caption", "col", "p"]),
   ("table", ["p", "head", "a"] ++ headings ++ layoutElements),
   ("td", cells ++ inCells),
   ("th", cells ++ inCells),
   ("tr", cells ++ tableHeads ++ ["tr", "p"]),
   ("thead", tableHeads),
   ("tfoot", cells ++ tableHeads ++ ["tr", "thead", "tbody", "p"]),
   ("tbody", cells ++ tableHeads ++ ["tr", "thead", "tfoot", "tbody", "p"])]

/-- The elements of lists and their items that each tag ends when it stands directly in them. -/
def endedInLists : List (String × List String) :=
  let blocks : List String := ["p", "address", "head"] ++ layoutElements
  [("li", blocks ++ headings ++ ["dl", "li"]),
   ("dl", blocks ++ sideLists ++ ["dt"]),
   ("dt", blocks ++ sideLists ++ ["dd"]),
   ("dd", blocks ++ sideLists ++ ["dt"]),
   ("ul", ["p", "head", "ol", "address", "pre", "listing", "archive"] ++ sideLists),
   ("ol", ["p", "head", "ul"]),
   ("menu", ["p", "head", "ul"]),
   ("dir", ["p", "head"]),
   ("optgroup", ["option"]),
   ("option", ["option"])]

/-- The other elements that each tag ends when it stands directly in them. -/
def endedInBlocks : List (String × List String) :=
  let opener : List String := ["head", "style", "link", "title", "p"]
  [("head", ["p"]),
   ("title", ["p"]),
   ("body", opener),
   ("frameset", opener),
   ("p", ["p", "head"] ++ headings ++ faceElements),
   ("form", ["form", "p", "hr", "head", "dl", "ul", "ol", "address"] ++ headings ++ sideLists
      ++ layoutElements),
   ("fieldset", ["legend", "p", "head", "a"] ++ headings ++ layoutElements),
   ("address", ["p", "head", "ul"]),
   ("pre", ["p", "head", "ul"]),
   ("center", ["font", "b", "i", "p", "head"]),
   ("a", ["a", "head"]),
   ("noscript", ["script"])]

/-- Tags that end nothing but the head and perhaps a paragraph. -/
def blockTags : List String :=
  ["hr", "listing", "xmp", "blockquote", "div"] ++ headings

/-- Tags that end nothing but the head. -/
def lineTags : List String :=
  faceElements ++ ["em", "strong", "dfn", "code", "samp", "kbd", "var", "cite", "abbr", "acronym",
    "img", "font", "br", "map", "q", "sub", "sup", "span", "bdo", "iframe"]

/-- The elements that an opening tag ends when it stands directly in them. -/
def endedBy (name : String) : List String :=
  match (endedInTables ++ endedInLists ++ endedInBlocks).lookup name with
  | some elements => elements
  | none =>
    if blockTags.contains name then ["p", "head"]
    else if lineTags.contains name then ["head"]
    else []

/-- The elements that every document has once. -/
def frameElements : List String := ["html", "head", "body"]

/-- Elements that belong into the head of a document. -/
def headContent : List String := ["script", "style", "meta", "link", "title", "base"]

/-- Elements that stand in place of the body of a document. -/
def bodySubstitutes : List String := ["noframes", "frame", "frameset"]

/-- How strongly an element resists being closed by the closing tag of an element around it. -/
def closingRank (name : String) : Nat :=
  ([("div", 150), ("td", 160), ("th", 160), ("tr", 170), ("thead", 180), ("tbody", 180),
    ("tfoot", 180), ("table", 190), ("head", 200), ("body", 200), ("html", 220)].lookup name).getD 100

end BooleanRetrieval.Markup
