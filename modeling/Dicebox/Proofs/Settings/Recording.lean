import Dicebox.Proofs.Run.Recording
import Dicebox.Settings.Load

/-!
# Finding settings is told to the log alone

Settings are looked for in many places, and the log hears of it: of lines that could not be read, of
files that are not there, of all layers in the end. Nobody else hears of anything (`onlyLogs_load`).
So a command that has to find its settings first is entered into the books as one that was handed
them, and sends the same messages.
-/

set_option autoImplicit false

namespace Dicebox

open Run

namespace Directions

theorem onlyLogs_tell (p : Place) (event : String) : (tell p event).OnlyLogs := by
  unfold tell
  split
  · exact onlyLogs_of_events rfl rfl
  · exact onlyLogs_pure ()

theorem onlyLogs_readText (given : List (String × Datum)) (path text : String) :
    (readText given path text).OnlyLogs := by
  unfold readText
  refine (onlyLogs_ofExcept _).bind fun encoding => ?_
  refine (onlyLogs_ofExcept _).bind fun chars => ?_
  exact (onlyLogs_logged (fun _ => rfl) _).bind fun _ => onlyLogs_pure _

theorem onlyLogs_readFile (p : Place) (given : List (String × Datum)) (path : Datum) :
    (readFile p given path).OnlyLogs := by
  -- A file that is not there, a directory and a device are all passed over in the same way.
  have hskipped : ∀ route : Place.Route,
      (do ofExcept (checkSearch given route)
          tell p ("Env file not found, skipping: " ++ route.text)
          return [] : Run (List (String × Option String))).OnlyLogs := by
    intro route
    refine (onlyLogs_ofExcept _).bind fun _ => ?_
    exact (onlyLogs_tell p _).bind fun _ => onlyLogs_pure _
  unfold readFile
  refine (onlyLogs_ofExcept _).bind fun route => ?_
  refine (onlyLogs_ofExcept _).bind fun found => ?_
  cases found with
  | file text => exact onlyLogs_readText given route.text text
  | nothing => exact hskipped route
  | directory files => exact hskipped route
  | device => exact hskipped route

theorem onlyLogs_readFiles (p : Place) (given : List (String × Datum)) :
    (readFiles p given).OnlyLogs := by
  unfold readFiles
  refine (onlyLogs_ofExcept _).bind fun paths => ?_
  exact OnlyLogs.mapM (onlyLogs_readFile p given) paths

end Directions

theorem Place.onlyLogs_search (p : Place) (given : List (String × Datum)) :
    (p.search given).OnlyLogs := by
  unfold search
  refine (onlyLogs_ofExcept _).bind fun _ => ?_
  refine (Directions.onlyLogs_readFiles p given).bind fun files => ?_
  refine (onlyLogs_ofExcept _).bind fun arguments => ?_
  refine (onlyLogs_ofExcept _).bind fun d => ?_
  refine (onlyLogs_ofExcept _).bind fun config => ?_
  refine (onlyLogs_ofExcept _).bind fun secrets => ?_
  exact (Directions.onlyLogs_tell p _).bind fun _ => onlyLogs_pure _

theorem Place.onlyLogs_layers (p : Place) (given : List (String × Datum)) :
    (p.layers given).OnlyLogs := by
  unfold layers
  refine (onlyLogs_ofExcept _).bind fun _ => ?_
  split
  · exact (onlyLogs_ofExcept _).bind fun _ => onlyLogs_pure _
  · exact p.onlyLogs_search given

/-- Whatever is found, and whether or not it can be read as settings, nobody but the log hears of
it. The reading itself says nothing at all: complaints are the result, and not told on the way. -/
theorem Settings.onlyLogs_load (p : Place) (given : List (String × Datum)) :
    (load p given).OnlyLogs := by
  unfold load
  refine (p.onlyLogs_layers given).bind fun layers => ?_
  exact onlyLogs_ofExcept _

end Dicebox
