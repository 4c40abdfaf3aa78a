import HtmlText.Text.Search

/-!
# Links

A link shows its text and its target. Where one of the two is missing, or the target says all that
the text says, one of them is enough.

## Main definitions

* `renderLink`: the text of a link.
-/

namespace HtmlText

/-- The target without the scheme of a mail address. -/
def dropMailScheme (href : String) : String :=
  if "mailto:".toList.isPrefixOf href.toList then String.ofList (href.toList.drop 7) else href

/-- A link with a given text and target. If the target contains the text, the target alone is
shown. -/
def renderLink (text href : String) : String :=
  if text = "" then href
  else if href = "" then text
  else
    let target := dropMailScheme href
    if occursIn text target then target ++ " " else text ++ " (" ++ target ++ ")"

end HtmlText
