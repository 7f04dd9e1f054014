import SecuredApp.Core.Text

/-!
# The interface to iwlist

`IWList.py`, which reads what `iwlist` prints of a scan, and `getSignal` of the mobility client,
which looks for a network in it. Every exception is caught by `getSignal`, so that what may raise
is an `Option`, `none` where it raises.
-/

namespace SecuredApp

open SecuredApp.Core

/-- The dictionary `cellData` of a cell, a field for each of its keys. -/
structure CellData where
  number : Option Text
  mac : Option Text
  essid : Option Text
  protocol : Option Text
  mode : Option Text
  frequency : Option Text
  channel : Option Text
  quality : Option Text
  signal : Option Text
  encryption : Option Text
  bitRates : Option Text
  extra : Option (List Text)

def CellData.empty : CellData where
  number := none
  mac := none
  essid := none
  protocol := none
  mode := none
  frequency := none
  channel := none
  quality := none
  signal := none
  encryption := none
  bitRates := none
  extra := none

/-! ### The lines of a cell -/

def getCellExtra (s : Text) : Option Text :=
  let s := s.splitOn ':'
  if s.length > 2 then some ([':'].intercalate (s.drop 1)) else s[1]?

/-- `getCellBitRates`: the first line that is equal to the given one, and the two after it. -/
def getCellBitRates (s : Text) (rawdatas : List Text) : Option Text := do
  let ixBitRate := rawdatas.idxOf s
  let rawBitRate ← rawdatas[ixBitRate]?
  let first ← (rawBitRate.splitOn ':')[1]?
  let second ← rawdatas[ixBitRate + 1]?
  let third ← rawdatas[ixBitRate + 2]?
  pure (Text.strip first ++ "; ".toList ++ Text.strip second ++ "; ".toList ++ Text.strip third)

def getCellNumber (s : Text) : Option Text := ((Text.strip s).splitOn ' ')[1]?

def getCellFrequency (s : Text) : Option Text := do
  let s ← (s.splitOn ':')[1]?
  ((Text.strip s).splitOn ' ')[0]?

def getCellChannel (s : Text) : Option Text :=
  ((Text.strip s).splitOn ' ')[3]?.map List.dropLast

def getCellEncryption (s : Text) : Option Text := ((Text.strip s).splitOn ':')[1]?

def getCellSignal (s : Text) : Option Text := do
  let s ← (Text.split "Signal level".toList s)[1]?
  ((Text.strip s).splitOn ' ')[0]?.map (List.drop 1)

def getCellQuality (s : Text) : Option Text := do
  let s ← (Text.split "Quality".toList s)[1]?
  ((Text.strip s).splitOn ' ')[0]?.map (List.drop 1)

def getCellMAC (s : Text) : Option Text := ((Text.strip s).splitOn ' ')[4]?

def getCellESSID (s : Text) : Option Text :=
  (Text.split ":\"".toList (Text.strip s))[1]?.map List.dropLast

def getCellProtocol (s : Text) : Option Text := ((Text.strip s).splitOn ':')[1]?

def getCellMode (s : Text) : Option Text := ((Text.strip s).splitOn ':')[1]?

/-- `if s.strip().startswith(key): ...`. -/
def whenLine (s : Text) (key : String) (f : CellData → Option CellData) (cellData : CellData) :
    Option CellData :=
  if Text.startsWith (Text.strip s) key.toList then f cellData else some cellData

/-- The body of the loop of `parseCellData`, for the line `s` of the lines of a cell. -/
def parseLine (splitRawData : List Text) (cellData : CellData) (s : Text) : Option CellData := do
  let cellData ← whenLine s "Cell " (fun cellData => do
    let number ← getCellNumber s
    let mac ← getCellMAC s
    pure { cellData with number := some number, mac := some mac }) cellData
  let cellData ← whenLine s "ESSID:\"" (fun cellData => do
    let essid ← getCellESSID s
    pure { cellData with essid := some essid }) cellData
  let cellData ← whenLine s "Protocol:" (fun cellData => do
    let protocol ← getCellProtocol s
    pure { cellData with protocol := some protocol }) cellData
  -- the test for the mode is there twice
  let cellData ← whenLine s "Mode:" (fun cellData => do
    let mode ← getCellMode s
    pure { cellData with mode := some mode }) cellData
  let cellData ← whenLine s "Mode:" (fun cellData => do
    let mode ← getCellMode s
    pure { cellData with mode := some mode }) cellData
  let cellData ← whenLine s "Frequency:" (fun cellData => do
    let frequency ← getCellFrequency s
    let channel ← getCellChannel s
    pure { cellData with frequency := some frequency, channel := some channel }) cellData
  let cellData ← whenLine s "Quality" (fun cellData => do
    let quality ← getCellQuality s
    let signal ← getCellSignal s
    pure { cellData with quality := some quality, signal := some signal }) cellData
  let cellData ← whenLine s "Encryption key:" (fun cellData => do
    let encryption ← getCellEncryption s
    pure { cellData with encryption := some encryption }) cellData
  let cellData ← whenLine s "Bit Rates:" (fun cellData => do
    let bitRates ← getCellBitRates s splitRawData
    pure { cellData with bitRates := some bitRates }) cellData
  whenLine s "Extra:" (fun cellData => do
    let extra ← getCellExtra s
    pure { cellData with extra := some (cellData.extra.getD [] ++ [extra]) }) cellData

/-- `parseCellData`: the number of the cell and its dictionary. -/
def parseCellData (rawCellData : Text) : Option (Text × CellData) := do
  let splitRawData := rawCellData.splitOn '\n'
  let cellData ← splitRawData.foldlM (parseLine splitRawData) .empty
  let number ← cellData.number
  pure (number, cellData)

/-! ### The cells of a scan -/

/-- The body of the first loop of `parseRawData`: a line that begins a cell, or goes on with the
last one. -/
def addLine (cellDataL : List (List Text)) (s : Text) : List (List Text) :=
  let cellDataL :=
    if Text.startsWith (Text.lstrip s) "Cell ".toList then cellDataL ++ [[]] else cellDataL
  if s = [] then cellDataL
  else match cellDataL.getLast? with
    | none => cellDataL
    | some cell => cellDataL.dropLast ++ [cell ++ [s]]

/-- `dict[key] = value`; a dictionary has its keys in no order that counts. -/
def setItem (dict : List (Text × CellData)) (key : Text) (value : CellData) :
    List (Text × CellData) :=
  (key, value) :: dict.filter fun entry => entry.1 ≠ key

/-- `parseRawData`. -/
def parseRawData (rawdata : Text) : Option (List (Text × CellData)) := do
  let cellDataL := (rawdata.splitOn '\n').foldl addLine []
  cellDataL.foldlM (fun parsedCellData s => do
    let (cellNumber, cellData) ← parseCellData (['\n'].intercalate s)
    pure (setItem parsedCellData cellNumber cellData)) []

/-! ### The search for a network -/

/-- A scan: what `iwlist` prints, `none` where it cannot be run, and the order in which a
dictionary is gone over. -/
structure Scan where
  rawdata : Option Text
  visit : List (Text × CellData) → List (Text × CellData)
  visit_perm : ∀ data, (visit data).Perm data

/-- The quotient of a quality such as `74/100`, as a percentage. -/
def percentage (q : Text) : Option Rat := do
  let q := q.splitOn '/'
  let a ← Text.float (← q[0]?)
  let b ← Text.float (← q[1]?)
  if b = 0 then none else pure (a / b * 100)

/-- The loop of `getSignal`: the first cell with the text as its ESSID whose quality is not
empty. -/
def searchCells (ssid : Text) : List CellData → Option (Option Rat)
  | [] => some none
  | cellinfo :: rest => do
    let essid ← cellinfo.essid
    if essid = ssid then
      let q ← cellinfo.quality
      if q ≠ [] then (percentage q).map some else searchCells ssid rest
    else searchCells ssid rest

/-- `IWList(...).getData()`; of a text that is blank there is no data to go over. -/
def getData (scan : Scan) : Option (List CellData) := do
  let rawdata ← scan.rawdata
  if Text.strip rawdata = [] then none
  else (parseRawData rawdata).map fun data => (scan.visit data).map (·.2)

/-- `getSignal`. -/
def getSignal (scan : Scan) (ssid : String) : Option Rat :=
  ((getData scan).bind (searchCells ssid.toList)).join

/-! ### What the search finds -/

/-- The cell has the text as its ESSID, and its quality is not empty. -/
def Carries (ssid : String) (cell : CellData) : Bool :=
  cell.essid = some ssid.toList ∧ cell.quality ≠ some []

/-- The search ends at the first cell that carries the SSID. -/
lemma searchCells_eq_some {ssid : String} {cells : List CellData} {q : Rat}
    (h : searchCells ssid.toList cells = some (some q)) :
    ∃ found ∈ cells.find? (Carries ssid), found.quality.bind percentage = some q := by
  induction cells with
  | nil => cases h
  | cons cell cells ih =>
    rw [searchCells] at h
    obtain ⟨essid, hessid, h⟩ := Option.bind_eq_some_iff.mp h
    split_ifs at h with heq
    · obtain ⟨quality, hquality, h⟩ := Option.bind_eq_some_iff.mp h
      split_ifs at h with hempty
      · have hcarries : Carries ssid cell = true := by simp [Carries, hessid, heq, hquality, hempty]
        refine ⟨cell, List.find?_cons_of_pos hcarries, ?_⟩
        rw [hquality, Option.bind_some]
        obtain ⟨q', hq', hsome⟩ := Option.map_eq_some_iff.mp h
        exact hq'.trans hsome
      · have hnot : ¬ Carries ssid cell = true := by simp [Carries, hquality, not_not.mp hempty]
        rw [List.find?_cons_of_neg hnot]
        exact ih h
    · have hnot : ¬ Carries ssid cell = true := by simp [Carries, hessid, heq]
      rw [List.find?_cons_of_neg hnot]
      exact ih h

end SecuredApp
