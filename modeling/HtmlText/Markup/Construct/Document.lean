import HtmlText.Markup.Construct.Special

/-!
# Rules for the frame of a document

Before the head, between head and body, behind the body and around framesets, missing tags are put
in as soon as something comes up that needs them. A document type is heard only at the beginning.

## Main definitions

* `Builder.startDocument`: the document type.
* `Builder.initialRules` to `Builder.afterHeadRules`: the rules up to the body.
* `Builder.afterBodyRules`, `Builder.framesetRules` and so on: the rules behind it.
-/

namespace HtmlText

/-! ### Document types -/

namespace Doctype

/-- The system identifier of a document type that is published at a web address. -/
def webAddress (host path : String) : String := "http:" ++ "//" ++ host ++ path

/-- The document types that are no problem. -/
def isAccepted (d : Doctype) : Bool :=
  d.name = some "html" &&
    match d.publicId, d.systemId with
    | none, none => true
    | none, some system => system = "about:legacy-compat"
    | some id, system =>
      [("-//W3C//DTD HTML 4.0//EN", none),
        ("-//W3C//DTD HTML 4.0//EN", some (webAddress "www.w3.org" "/TR/REC-html40/strict.dtd")),
        ("-//W3C//DTD HTML 4.01//EN", none),
        ("-//W3C//DTD HTML 4.01//EN", some (webAddress "www.w3.org" "/TR/html4/strict.dtd")),
        ("-//W3C//DTD XHTML 1.0 Strict//EN",
          some (webAddress "www.w3.org" "/TR/xhtml1/DTD/xhtml1-strict.dtd")),
        ("-//W3C//DTD XHTML 1.1//EN",
          some (webAddress "www.w3.org" "/TR/xhtml11/DTD/xhtml11.dtd"))].contains (id, system)

/-- The beginnings of public identifiers, in small letters, that call for the old layout. -/
def oldPublicIds : List String := [
  "-//advasoft ltd//dtd html 3.0 aswedit + extensions//",
  "-//as//dtd html 3.0 aswedit + extensions//",
  "-//ietf//dtd html 2.0 level 1//",
  "-//ietf//dtd html 2.0 level 2//",
  "-//ietf//dtd html 2.0 strict level 1//",
  "-//ietf//dtd html 2.0 strict level 2//",
  "-//ietf//dtd html 2.0 strict//",
  "-//ietf//dtd html 2.0//",
  "-//ietf//dtd html 2.1e//",
  "-//ietf//dtd html 3.0//",
  "-//ietf//dtd html 3.2 final//",
  "-//ietf//dtd html 3.2//",
  "-//ietf//dtd html 3//",
  "-//ietf//dtd html level 0//",
  "-//ietf//dtd html level 1//",
  "-//ietf//dtd html level 2//",
  "-//ietf//dtd html level 3//",
  "-//ietf//dtd html strict level 0//",
  "-//ietf//dtd html strict level 1//",
  "-//ietf//dtd html strict level 2//",
  "-//ietf//dtd html strict level 3//",
  "-//ietf//dtd html strict//",
  "-//ietf//dtd html//",
  "-//metrius//dtd metrius presentational//",
  "-//microsoft//dtd internet explorer 2.0 html strict//",
  "-//microsoft//dtd internet explorer 2.0 html//",
  "-//microsoft//dtd internet explorer 2.0 tables//",
  "-//microsoft//dtd internet explorer 3.0 html strict//",
  "-//microsoft//dtd internet explorer 3.0 html//",
  "-//microsoft//dtd internet explorer 3.0 tables//",
  "-//netscape comm. corp.//dtd html//",
  "-//netscape comm. corp.//dtd strict html//",
  "-//o'reilly and associates//dtd html 2.0//",
  "-//o'reilly and associates//dtd html extended 1.0//",
  "-//o'reilly and associates//dtd html extended relaxed 1.0//",
  "-//softquad software//dtd hotmetal pro 6.0::19990601::extensions to html 4.0//",
  "-//softquad//dtd hotmetal pro 4.0::19971010::extensions to html 4.0//",
  "-//spyglass//dtd html 2.0 extended//",
  "-//sq//dtd html 2.0 hotmetal + extensions//",
  "-//sun microsystems corp.//dtd hotjava html//",
  "-//sun microsystems corp.//dtd hotjava strict html//",
  "-//w3c//dtd html 3 1995-03-24//",
  "-//w3c//dtd html 3.2 draft//",
  "-//w3c//dtd html 3.2 final//",
  "-//w3c//dtd html 3.2//",
  "-//w3c//dtd html 3.2s draft//",
  "-//w3c//dtd html 4.0 frameset//",
  "-//w3c//dtd html 4.0 transitional//",
  "-//w3c//dtd html experimental 19960712//",
  "-//w3c//dtd html experimental 970421//",
  "-//w3c//dtd w3 html//",
  "-//w3o//dtd w3 html 3.0//",
  "-//webtechs//dtd mozilla html 2.0//",
  "-//webtechs//dtd mozilla html//"]

/-- The public identifiers, in small letters, that call for the old layout. -/
def oldPublicIdsExact : List String :=
  ["-//w3o//dtd w3 html strict 3.0//en//", "-/w3c/dtd html 4.0 transitional/en", "html"]

/-- The beginnings of public identifiers that call for the old layout where no system identifier
stands beside them. -/
def oldPublicIdsAlone : List String :=
  ["-//w3c//dtd html 4.01 frameset//", "-//w3c//dtd html 4.01 transitional//"]

/-- A text in small letters. -/
def small (s : String) : String := String.ofList (s.toList.map lowerAscii)

/-- Whether a document with this type is laid out the old way. -/
def wantsOldLayout (d : Doctype) : Bool :=
  let beginsWithOneOf (s : String) (beginnings : List String) : Bool :=
    beginnings.any fun beginning => beginning.toList.isPrefixOf s.toList
  d.incomplete || d.name ≠ some "html" ||
    (d.systemId.any fun id =>
      small id = webAddress "www.ibm.com" "/data/dtd/v11/ibmxhtml1-transitional.dtd") ||
    d.publicId.any fun id =>
      let id := small id
      oldPublicIdsExact.contains id || beginsWithOneOf id oldPublicIds ||
        (d.systemId.isNone && beginsWithOneOf id oldPublicIdsAlone)

end Doctype

namespace Builder

/-- A document type. It counts only if nothing but comments and blanks comes before it. -/
def startDocument (b : Builder) (d : Doctype) : Builder :=
  if b.mode = .initial then
    let b := if d.isAccepted then b else b.report .badDoctype
    let (draft, id) := b.draft.add (.doctype d)
    { b with draft := draft.append 0 id, oldLayout := d.wantsOldLayout, mode := .beforeHtml }
  else b.report .strayDoctype

/-! ### Up to the body -/

/-- The rules before a document type. -/
def initialRules (b : Builder) (t : Token) : Step :=
  let missing := { b.unexpected with oldLayout := true }.againIn .beforeHtml t
  match t with
  | .text cs => if isBlankRun cs then b.done else missing
  | .comment s => (b.commentIn 0 s).done
  | _ => missing

/-- End tags that may stand before the element that they end is open. -/
def endsEarly (tag : String) : Bool := ["head", "body", "html", "br"].contains tag

/-- The rules before the root element. -/
def beforeHtmlRules (b : Builder) (t : Token) : Step :=
  let missing := (b.insertRoot []).againIn .beforeHead t
  match t with
  | .text cs => if isBlankRun cs then b.done else missing
  | .comment s => (b.commentIn 0 s).done
  | .startTag tag =>
    if tag.name = "html" then (b.insertRoot tag.attributes).doneIn .beforeHead else missing
  | .endTag tag => if endsEarly tag.name then missing else b.unexpected.done
  | _ => missing

/-- Insert and open the head. -/
def insertHead (b : Builder) (attributes : List (String × String)) : Builder :=
  let (b, id) := b.insertOpen (.html "head") attributes
  { b with head := some id }

/-- The rules before the head. -/
def beforeHeadRules (b : Builder) (t : Token) : Step :=
  let missing := (b.insertHead []).againIn .inHead t
  match t with
  | .text cs => if isBlankRun cs then b.done else missing
  | .comment s => (b.insertComment s).done
  | .startTag tag =>
    if tag.name = "html" then b.htmlStart tag
    else if tag.name = "head" then (b.insertHead tag.attributes).doneIn .inHead
    else missing
  | .endTag tag => if endsEarly tag.name then missing else b.unexpected.done
  | _ => missing

/-- What belongs into the head, but comes behind it, is put into it. -/
def lateHeadContent (b : Builder) (t : Tag) : Step :=
  let b := b.unexpected
  match b.head with
  | none => b.headContent t
  | some head =>
    let (b, outcome) := { b with stack := ⟨head, .html "head"⟩ :: b.stack }.headContent t
    (b.removeOpen head, outcome)

/-- The rules between head and body. -/
def afterHeadRules (b : Builder) (t : Token) : Step :=
  let missing := (b.insertMissing "body").againIn .inBody t
  match t with
  | .text cs => if isBlankRun cs then (b.insertText cs).done else missing
  | .comment s => (b.insertComment s).done
  | .startTag tag =>
    if tag.name = "html" then b.htmlStart tag
    else if tag.name = "body" then ((b.insertTag tag).forbidFrameset).doneIn .inBody
    else if tag.name = "frameset" then (b.insertTag tag).doneIn .inFrameset
    else if isHeadContent tag.name then b.lateHeadContent tag
    else if tag.name = "head" then b.unexpected.done
    else missing
  | .endTag tag =>
    if tag.name = "template" then b.templateEnd
    else if ["body", "html", "br"].contains tag.name then missing
    else b.unexpected.done
  | _ => missing

/-! ### Behind the body -/

/-- The rules inside raw text. -/
def rawTextRules (b : Builder) (t : Token) : Step :=
  let leave := { b with textMode := .markup }.pop
  match t with
  | .text cs => (b.insertText cs).done
  | .sourceEnd => leave.unexpected.againIn b.returnMode t
  | .endTag _ => leave.doneIn b.returnMode
  | _ => b.done

/-- The rules behind the body. -/
def afterBodyRules (b : Builder) (t : Token) : Step :=
  let misplaced := b.unexpected.againIn .inBody t
  match t with
  | .text cs => if isBlankRun cs then b.bodyRules t else misplaced
  | .comment s =>
    match b.root? with
    | some root => (b.commentIn root.id s).done
    | none => b.done
  | .startTag tag => if tag.name = "html" then b.htmlStart tag else misplaced
  | .endTag tag =>
    if tag.name = "html" then
      if b.fragment then b.unexpected.done else b.doneIn .afterAfterBody
    else misplaced
  | .sourceEnd => b.done
  | _ => misplaced

/-- The rules behind the root element. -/
def afterAfterBodyRules (b : Builder) (t : Token) : Step :=
  let misplaced := b.unexpected.againIn .inBody t
  match t with
  | .text cs => if isBlankRun cs then b.bodyRules t else misplaced
  | .comment s => (b.commentIn 0 s).done
  | .startTag tag => if tag.name = "html" then b.htmlStart tag else misplaced
  | .sourceEnd => b.done
  | _ => misplaced

/-- The rules in a frameset. -/
def framesetRules (b : Builder) (t : Token) : Step :=
  match t with
  | .text cs => if isBlankRun cs then (b.insertText cs).done else b.unexpected.done
  | .comment s => (b.insertComment s).done
  | .startTag tag =>
    if tag.name = "html" then b.htmlStart tag
    else if tag.name = "frameset" then (b.insertTag tag).done
    else if tag.name = "frame" then (b.insertVoid tag).acknowledged
    else if tag.name = "noframes" then b.headContent tag
    else b.unexpected.done
  | .endTag tag =>
    if tag.name = "frameset" && b.stack.length ≠ 1 then
      let b := b.pop
      if !b.fragment && !b.currentIn ["frameset"] then b.doneIn .afterFrameset else b.done
    else b.unexpected.done
  | .sourceEnd => (if b.stack.length = 1 then b else b.unexpected).done
  | _ => b.unexpected.done

/-- The rules behind a frameset. -/
def afterFramesetRules (b : Builder) (t : Token) : Step :=
  match t with
  | .text cs => if isBlankRun cs then (b.insertText cs).done else b.unexpected.done
  | .comment s => (b.insertComment s).done
  | .startTag tag =>
    if tag.name = "html" then b.htmlStart tag
    else if tag.name = "noframes" then b.headContent tag
    else b.unexpected.done
  | .endTag tag =>
    if tag.name = "html" then b.doneIn .afterAfterFrameset else b.unexpected.done
  | .sourceEnd => b.done
  | _ => b.unexpected.done

/-- The rules behind the root element of a document with framesets. -/
def afterAfterFramesetRules (b : Builder) (t : Token) : Step :=
  match t with
  | .text cs => if isBlankRun cs then b.bodyRules t else b.unexpected.done
  | .comment s => (b.commentIn 0 s).done
  | .startTag tag =>
    if tag.name = "html" then b.htmlStart tag
    else if tag.name = "noframes" then b.headContent tag
    else b.unexpected.done
  | .sourceEnd => b.done
  | _ => b.unexpected.done

end Builder

end HtmlText
