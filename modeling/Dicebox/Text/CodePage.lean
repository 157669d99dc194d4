import Dicebox.Text.CodePage.Ebcdic
import Dicebox.Text.CodePage.PersonalComputer
import Dicebox.Text.CodePage.Windows
import Dicebox.Text.CodePage.Iso8859
import Dicebox.Text.CodePage.Macintosh
import Dicebox.Text.CodePage.Regional
import Dicebox.Text.EncodingName

/-!
# All code pages

A code page is found by any of its names. They are in lower case, with single underscores between
their parts, and a point may stand for an underscore in all of them but a page's own name.
-/

set_option autoImplicit false

namespace Dicebox.Text.CodePage

/-- All code pages. -/
def all : List CodePage :=
  ebcdic ++ personalComputer ++ windows ++ iso8859 ++ macintosh ++ regional

/-- The code page of a name. -/
def ofName? (name : String) : Option CodePage :=
  all.find? fun p => EncodingName.isAmong p.names name

end Dicebox.Text.CodePage
