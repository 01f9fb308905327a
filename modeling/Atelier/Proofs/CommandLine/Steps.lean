/-
The steps of commands, on a host that is a state.

What a host only tells leaves it as it is.  So the variables that a configuration is read from are
a function of the host (`Memory.environment`), in which a variable of the host counts before one of
a file.
-/
import Atelier.CommandLine.Memory
import Atelier.CommandLine.Run
import Atelier.Proofs.Stepwise

namespace Atelier

lemma fromUTF8?_toUTF8 (text : String) : String.fromUTF8? text.toUTF8 = some text := by
  rw [String.fromUTF8?, String.toUTF8_eq_toByteArray, dif_pos text.isValidUTF8]
  rfl

/-- A file is read as what the system has at its path. -/
lemma Memory.run_readBytes (s : Memory) (path : String) :
    (Host.readBytes (m := StateM Memory) path).run s =
      ((s.file? path).elim (.error "No such file or directory (os error 2)") .ok, s) := by
  simp only [Host.readBytes, bind_pure_comp, StateT.run_map, StateT.run_get, map_pure]
  cases s.file? path <;> rfl

namespace CommandLine

/-- How a run of the program ends, and what the system is then. -/
def runOn (args : List String) (s : Memory) : Except CommandError Unit × Memory :=
  (run (m := StateM Memory) args).run.run s

/-- How a command ends, and what the system is then. -/
def executeOn (config : Config) (command : Command) (s : Memory) :
    Except CommandError Unit × Memory :=
  (execute (m := StateM Memory) config command).run.run s

variable {σ α ε : Type}

lemma run_liftM (x : StateM σ α) (s : σ) :
    (liftM x : ExceptT CommandError (StateM σ) α).run.run s =
      (.ok (x.run s).1, (x.run s).2) := rfl

lemma run_liftM_of_run {x : StateM σ α} {s s' : σ} {a : α} (h : x.run s = (a, s')) :
    (liftM x : ExceptT CommandError (StateM σ) α).run.run s = (.ok a, s') := by
  rw [run_liftM, h]

lemma run_orError_of_ok {result : Except ε α} {a : α} (error : ε → CommandError)
    (h : result = .ok a) (s : σ) :
    (orError (m := StateM σ) error result).run.run s = (.ok a, s) := by
  rw [h]
  rfl

lemma run_orError_of_error {result : Except ε α} {e : ε} (error : ε → CommandError)
    (h : result = .error e) (s : σ) :
    (orError (m := StateM σ) error result).run.run s = (.error (error e), s) := by
  rw [h]
  rfl

/-- A file with a text is read as that text. -/
lemma run_readText {s : Memory} {path text : String} (h : s.file? path = some text.toUTF8) :
    (readText (m := StateM Memory) path).run.run s = (.ok text, s) := by
  have hbytes : (Host.readBytes (m := StateM Memory) path).run s = (.ok text.toUTF8, s) := by
    rw [Memory.run_readBytes, h, Option.elim_some]
  refine (run_bind_of_ok (run_liftM_of_run hbytes)).trans ?_
  dsimp only
  rw [fromUTF8?_toUTF8]
  rfl

end CommandLine

/-! ## Variables -/

namespace Variables

variable {set : List (String × String)} {name value : String}

/-- A variable that is set keeps its value when those of a file are added. -/
lemma lookup_withFile (h : set.lookup name = some value) (file : List Assignment) :
    (withFile set file).lookup name = some value := by
  induction file generalizing set with
  | nil => exact h
  | cons a file ih =>
    refine ih ?_
    dsimp only
    split
    · exact h
    · rw [List.lookup_append, h, Option.some_or]

/-- Among the variables that are looked up one by one, each has its value. -/
lemma lookup_filterMap_of_mem {names : List String} (hname : name ∈ names)
    (h : set.lookup name = some value) :
    (names.filterMap fun name => (set.lookup name).map (name, ·)).lookup name = some value := by
  induction names with
  | nil => cases hname
  | cons other names ih =>
    by_cases hsame : name = other
    · subst hsame
      rw [List.filterMap_cons_some (by rw [h, Option.map_some]), List.lookup_cons_self]
    · have hrest := ih (List.mem_of_ne_of_mem hsame hname)
      cases hother : set.lookup other with
      | none => rwa [List.filterMap_cons_none (by rw [hother, Option.map_none])]
      | some v =>
        rw [List.filterMap_cons_some (by rw [hother, Option.map_some]), List.lookup_cons,
          beq_false_of_ne hsame]
        exact hrest

end Variables

namespace Memory

open CommandLine (readableLines variablesFile)

/-- The assignments in the file that sets variables. -/
def assignments (s : Memory) : List Variables.Assignment :=
  Variables.parse (readableLines ((s.file? variablesFile).getD ByteArray.empty))

/-- The variables that a configuration is read from. -/
def environment (s : Memory) : List (String × String) :=
  let names := Config.keys ++ s.assignments.map (·.name) ++ Variables.references s.assignments
  Variables.withFile (names.filterMap fun name => (s.settings.lookup name).map (name, ·))
    s.assignments

lemma run_settings (s : Memory) :
    (CommandLine.settings (m := StateM Memory)).run s = (s.environment, s) := by
  let names := Config.keys ++ s.assignments.map (·.name) ++ Variables.references s.assignments
  let entry (name : String) := (s.settings.lookup name).map (name, ·)
  let ask (name : String) : StateM Memory (Option (String × String)) := do
    return (← Host.setting? name).map (name, ·)
  have hask : (names.mapM ask).run s = (names.map entry, s) :=
    run_mapM_of_run (f := ask) (g := entry) (fun _ => rfl) names
  have hset : (names.map entry).filterMap id = names.filterMap entry := List.filterMap_map
  have hfile : ((s.file? variablesFile).elim (.error "No such file or directory (os error 2)")
      .ok : Except String ByteArray).toOption = s.file? variablesFile := by
    cases s.file? variablesFile <;> rfl
  refine (run_bind_of_run (s.run_readBytes variablesFile)).trans ?_
  rw [hfile]
  refine (run_bind_of_run hask).trans ?_
  exact congrArg (fun set => (Variables.withFile set s.assignments, s)) hset

/-- For a configuration, a variable of the host counts before one of a file. -/
lemma lookup_environment {s : Memory} {name value : String} (hname : name ∈ Config.keys)
    (h : s.settings.lookup name = some value) : s.environment.lookup name = some value := by
  refine Variables.lookup_withFile (Variables.lookup_filterMap_of_mem ?_ h) _
  simp [hname]

end Memory

end Atelier
