import PageCensus.Text.Blank
import PageCensus.Text.Pieces

/-!
# Lists of addresses

A list of addresses is a text with one address on a line.  Blanks around an address do not belong
to it.  Lines with nothing but blanks are skipped, and so are comments, which start with `#`.

* `UrlList.ofText` — the addresses of a text.
* `UrlList.default` — the addresses that are visited when nothing else is said.
-/

set_option autoImplicit false

namespace PageCensus

namespace UrlList

/-- Whether a trimmed line is an address: it is neither empty nor a comment. -/
def isAddress : List Char → Bool
  | [] => false
  | c :: _ => c != '#'

/-- The addresses of a text, in order. -/
def ofText (text : String) : List String :=
  (((readLines text.toList).map trimBlank).filter isAddress).map String.ofList

/-- The pages that are visited when nothing else is said: articles on one subject in eleven
languages. -/
def default : List String :=
  ["https://de.wikipedia.org/wiki/Technische_Universit%C3%A4t_Dresden",
    "https://en.wikipedia.org/wiki/TU_Dresden",
    "https://da.wikipedia.org/wiki/Technische_Universit%C3%A4t_Dresden",
    "https://es.wikipedia.org/wiki/Universidad_Polit%C3%A9cnica_de_Dresde",
    "https://fr.wikipedia.org/wiki/Universit%C3%A9_technique_de_Dresde",
    "https://it.wikipedia.org/wiki/Universit%C3%A0_tecnica_di_Dresda",
    "https://nl.wikipedia.org/wiki/Technische_Universiteit_Dresden",
    "https://pl.wikipedia.org/wiki/Uniwersytet_Techniczny_w_Dre%C5%BAnie",
    "https://ru.wikipedia.org/wiki/%D0%94%D1%80%D0%B5%D0%B7%D0%B4%D0%B5%D0%BD%D1%81%D0%BA%D0%B8" ++
      "%D0%B9_%D1%82%D0%B5%D1%85%D0%BD%D0%B8%D1%87%D0%B5%D1%81%D0%BA%D0%B8%D0%B9_%D1%83%D0%BD" ++
      "%D0%B8%D0%B2%D0%B5%D1%80%D1%81%D0%B8%D1%82%D0%B5%D1%82",
    "https://zh.wikipedia.org/wiki/%E5%BE%B7%E7%B4%AF%E6%96%AF%E9%A1%BF%E5%B7%A5%E4%B8%9A" ++
      "%E5%A4%A7%E5%AD%A6",
    "https://pt.wikipedia.org/wiki/Universidade_T%C3%A9cnica_de_Dresden"]

/-- Comments, empty lines and the blanks around an address are skipped. -/
example : ofText "# header\n\n  http://a/  \r\n#http://b/\nhttp://c/" =
    ["http://a/", "http://c/"] := by decide

end UrlList

end PageCensus
