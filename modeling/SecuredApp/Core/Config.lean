import SecuredApp.Core.Py

/-!
# Configuration files

`RawConfigParser` of Python's `ConfigParser`: option names are compared after lower-casing, the
last of several entries counts, and every section has the option `__name__`.
-/

namespace SecuredApp.Core

/-- `str.lower`. -/
def lower (s : String) : String := String.ofList (s.toList.map Char.toLower)

/-- A configuration file that was read: its sections with their entries as they are written, in
the order of the file, and the entries of `[DEFAULT]`. -/
structure RawConfigParser where
  sections : List (String × List (String × String))
  defaults : List (String × String)

namespace RawConfigParser

/-- The value of the last entry whose lower-cased name is `opt`. -/
def lastEntry (entries : List (String × String)) (opt : String) : Option String :=
  (entries.reverse.find? fun entry => lower entry.1 = opt).map (·.2)

/-- The entries of a section, which may be written in several places. -/
def entries (config : RawConfigParser) (sectionName : String) : List (String × String) :=
  ("__name__", sectionName) ::
    (config.sections.filter fun s => s.1 = sectionName).flatMap (·.2)

/-- `get`, `none` where it raises. -/
def get (config : RawConfigParser) (sectionName option : String) : Option String :=
  let opt := lower option
  if config.sections.any fun s => s.1 = sectionName then
    (lastEntry (config.entries sectionName) opt).or (lastEntry config.defaults opt)
  else if sectionName = "DEFAULT" then lastEntry config.defaults opt
  else none

/-- `getboolean`, `none` where it raises. -/
def getBoolean (config : RawConfigParser) (sectionName option : String) : Option Bool :=
  match config.get sectionName option with
  | none => none
  | some v =>
    if lower v ∈ ["1", "yes", "true", "on"] then some true
    else if lower v ∈ ["0", "no", "false", "off"] then some false
    else none

/-- The entries of a section as they are written, in the order of the file. -/
def written (config : RawConfigParser) (sectionName : String) : List (String × String) :=
  (config.sections.filter fun s => s.1 = sectionName).flatMap (·.2)

/-- The options of a section that is there, the ones that count more later. -/
def options (config : RawConfigParser) (sectionName : String) : List (String × String) :=
  if config.sections.any fun s => s.1 = sectionName then
    config.defaults ++ config.entries sectionName
  else []

@[simp] lemma lastEntry_nil (opt : String) : lastEntry [] opt = none := rfl

lemma lastEntry_append (entries entries' : List (String × String)) (opt : String) :
    lastEntry (entries ++ entries') opt = (lastEntry entries' opt).or (lastEntry entries opt) := by
  rw [lastEntry, List.reverse_append, List.find?_append]
  cases h : entries'.reverse.find? fun entry => lower entry.1 = opt with
  | none => simp [lastEntry, h]
  | some entry => simp [lastEntry, h]

/-- `get` takes the last of the options whose name is the asked one but for its case. -/
lemma get_eq_lastEntry (config : RawConfigParser) {sectionName : String} (option : String)
    (h : sectionName ≠ "DEFAULT") :
    config.get sectionName option = lastEntry (config.options sectionName) (lower option) := by
  rw [get, options]
  by_cases hany : config.sections.any fun s => s.1 = sectionName
  · rw [if_pos hany, if_pos hany, lastEntry_append]
  · rw [if_neg hany, if_neg hany, if_neg h, lastEntry_nil]

end RawConfigParser

end SecuredApp.Core
