import SriovFec.Api.V2

/-!
# The node the daemon runs on

The daemon writes ini files, removes files and runs commands on its node. A `Host` holds
the node's files, what the node answers to each effect, and the effects asked for so far
with their errors. An effect the node fails leaves the files as they were.

## Implementation notes

An `ini.File` is kept as its sections and keys in order; its rendering as text by
`gopkg.in/ini.v1` is not modelled, and `SaveTo` stores the value at once, where `ini.v1`
writes the file in place. `runExecCmd` and `execAndSuppress` are not part of the
repository's files and are modelled from the spec; a command changes no file here, so the
socket file `pf_bb_config` leaves is not modelled. The results about the daemon read its
effects and their order, not the files after a failed save or a command.
-/

namespace SriovFec.Daemon

/-- A Go `error` as the daemon sees it: a message, or a command's exit with its code. -/
inductive GoError where
  | text (message : String)
  | exitError (code : Nat)
  deriving DecidableEq, Repr

/-- `Error()`. -/
def GoError.error : GoError → String
  | .text message => message
  | .exitError code => "exit status " ++ toString code

/-- A section of an ini file with its keys in order. -/
structure IniSection where
  name : String
  keys : List (String × String)
  deriving DecidableEq, Repr

/-- An `ini.File`: its sections in the order they were made. -/
structure IniFile where
  sections : List IniSection
  deriving DecidableEq, Repr

namespace IniFile

/-- `ini.Empty()`. -/
def empty : IniFile := ⟨[]⟩

/-- `NewSection`: an empty name fails, an existing section is kept, a new one goes last. -/
def newSection (f : IniFile) (name : String) : Except GoError IniFile :=
  if name = "" then .error (.text "empty section name")
  else if f.sections.any (·.name == name) then .ok f
  else .ok ⟨f.sections ++ [⟨name, []⟩]⟩

/-- `NewSections`: `NewSection` for each name, up to the first error. -/
def newSections (f : IniFile) : List String → Except GoError IniFile
  | [] => .ok f
  | name :: names => match f.newSection name with
    | .error e => .error e
    | .ok f => f.newSections names

/-- `Key(key).SetValue(value)` on the keys of a section: a new key goes last. -/
def setKey (keys : List (String × String)) (key value : String) : List (String × String) :=
  if keys.any (·.1 == key) then keys.map fun kv => if kv.1 = key then (key, value) else kv
  else keys ++ [(key, value)]

/-- `Section(sec).Key(key).SetValue(value)`: a new section goes last. -/
def setValue (f : IniFile) (sec key value : String) : IniFile :=
  if f.sections.any (·.name == sec) then
    ⟨f.sections.map fun s => if s.name = sec then ⟨s.name, setKey s.keys key value⟩ else s⟩
  else ⟨f.sections ++ [⟨sec, [(key, value)]⟩]⟩

/-- `NewSections` on an empty file makes the sections in order when the names are distinct
and none is empty. -/
theorem empty_newSections {names : List String} (hd : names.Nodup)
    (hne : ∀ name ∈ names, name ≠ "") : empty.newSections names = .ok ⟨names.map (⟨·, []⟩)⟩ := by
  suffices ∀ pre : List String, (∀ n ∈ names, n ∉ pre) →
      (⟨pre.map (⟨·, []⟩)⟩ : IniFile).newSections names = .ok ⟨(pre ++ names).map (⟨·, []⟩)⟩ from
    this [] (by simp)
  induction names with
  | nil => simp [newSections]
  | cons name rest ih =>
      intro pre hpre
      have hnew : (⟨pre.map (⟨·, []⟩)⟩ : IniFile).newSection name = .ok ⟨(pre ++ [name]).map (⟨·, []⟩)⟩ := by
        have hn : name ∉ pre := hpre name (.head _)
        simp [newSection, hne name (.head _), List.any_eq_true, hn]
      simp only [newSections, hnew]
      rw [ih (List.nodup_cons.1 hd).2 (fun n hn => hne n (.tail _ hn)), List.append_assoc]
      · rfl
      · intro n hn hm
        rcases List.mem_append.1 hm with hm | hm
        · exact hpre n (.tail _ hn) hm
        · exact (List.nodup_cons.1 hd).1 (by rw [List.mem_singleton.1 hm] at hn; exact hn)

end IniFile

/-- What the daemon asks of its node. -/
inductive Effect where
  | save (path : String) (file : IniFile)
  | remove (path : String)
  | exec (args : List String)
  deriving DecidableEq, Repr

/-- An effect and the error the node gave it, if any. -/
structure Event where
  effect : Effect
  error : Option GoError
  deriving DecidableEq, Repr

/-- The node: its files, the error it gives the `n`-th effect if it fails it, and the
effects so far. -/
structure Host where
  files : String → Option IniFile
  faults : Nat → Option GoError
  events : List Event

/-- What the node makes of the files for the next effect: its fault, or what `act` does. -/
def Host.answer (h : Host)
    (act : (String → Option IniFile) → Except GoError (String → Option IniFile)) :
    Except GoError (String → Option IniFile) :=
  match h.faults h.events.length with
  | some err => .error err
  | none => act h.files

/-- One effect, returning its Go `error` (`none` for `nil`): `act` says what it does to the
files; a fault of the node or an error of `act` leaves them as they were. -/
def perform (e : Effect)
    (act : (String → Option IniFile) → Except GoError (String → Option IniFile)) (h : Host) :
    Option GoError × Host :=
  match h.answer act with
  | .error err => (some err, { h with events := h.events ++ [⟨e, some err⟩] })
  | .ok files => (none, { h with files := files, events := h.events ++ [⟨e, none⟩] })

/-- `cfg.SaveTo(file)`. -/
def saveTo (cfg : IniFile) (file : String) : Host → Option GoError × Host :=
  perform (.save file cfg) fun files => .ok fun p => if p = file then some cfg else files p

/-- `os.Remove`: a missing file is an error. -/
def remove (path : String) : Host → Option GoError × Host :=
  perform (.remove path) fun files =>
    match files path with
    | none => .error (.text ("remove " ++ path ++ ": no such file or directory"))
    | some _ => .ok fun p => if p = path then none else files p

/-- Modelled from the spec: `runExecCmd` runs the command and returns its error. -/
def runExecCmd (args : List String) : Host → Option GoError × Host :=
  perform (.exec args) .ok

/-- Modelled from the spec: `execAndSuppress` runs the command, and an error `suppress`
accepts is returned as `nil`. -/
def execAndSuppress (args : List String) (suppress : GoError → Bool) (h : Host) :
    Option GoError × Host :=
  match runExecCmd args h with
  | (some e, h) => if suppress e then (none, h) else (some e, h)
  | (none, h) => (none, h)

theorem execAndSuppress_host (args : List String) (suppress : GoError → Bool) (h : Host) :
    (execAndSuppress args suppress h).2 = (runExecCmd args h).2 := by
  unfold execAndSuppress
  rcases runExecCmd args h with ⟨_ | e, h'⟩
  · rfl
  · dsimp only
    split <;> rfl

/-- Every effect is recorded once, with the error it returns. -/
theorem perform_events (e act h) :
    (perform e act h).2.events = h.events ++ [⟨e, (perform e act h).1⟩] := by
  unfold perform
  split <;> rfl

theorem saveTo_events (cfg : IniFile) (file : String) (h : Host) :
    (saveTo cfg file h).2.events = h.events ++ [⟨.save file cfg, (saveTo cfg file h).1⟩] :=
  perform_events _ _ _

theorem remove_events (path : String) (h : Host) :
    (remove path h).2.events = h.events ++ [⟨.remove path, (remove path h).1⟩] :=
  perform_events _ _ _

theorem runExecCmd_events (args : List String) (h : Host) :
    (runExecCmd args h).2.events = h.events ++ [⟨.exec args, (runExecCmd args h).1⟩] :=
  perform_events _ _ _

end SriovFec.Daemon
