import SecuredApp.Mobility.IWList

/-!
# The lines of a scan

What `iwlist` prints of a scan, a line for each attribute of a cell, and what `parseCellData` reads
in each of these lines.
-/

namespace SecuredApp

open SecuredApp.Core

/-! ### What iwlist prints -/

/-- A text of one line. -/
abbrev Line := { t : Text // '\n' ∉ t }

/-- A text without blanks. -/
abbrev Token := { t : Text // t ≠ [] ∧ t.any Text.blank = false }

/-- What the lines begin with that `parseCellData` reads. -/
def lineKeys : List String :=
  ["Cell ", "ESSID:\"", "Protocol:", "Mode:", "Frequency:", "Quality", "Encryption key:",
    "Bit Rates:", "Extra:"]

/-- A line that `parseCellData` does not read. -/
abbrev OtherLine :=
  { t : Line // ∀ key ∈ lineKeys, Text.startsWith (Text.lstrip t.1) key.toList = false }

/-- A line below that of a cell. What is printed after a quality has the signal level in it, unless
the interface has none; a frequency comes without its channel if it is not one of the known. -/
inductive Attribute
  | essid (ssid : Line)
  | protocol (text : Line)
  | mode (text : Line)
  | frequency (value unit : Token) (channel : Option Token)
  | quality (a b : ℕ) (levels : Line)
  | encryption (text : Line)
  | bitRates (text : Line)
  | extra (text : Line)
  | other (text : OtherLine)

/-- A quality `a/b`. -/
def qualityText (q : ℕ × ℕ) : Text := Nat.toDigits 10 q.1 ++ '/' :: Nat.toDigits 10 q.2

def Attribute.text : Attribute → Text
  | .essid ssid => "ESSID:\"".toList ++ (ssid.1 ++ ['"'])
  | .protocol text => "Protocol:".toList ++ text.1
  | .mode text => "Mode:".toList ++ text.1
  | .frequency value unit none => "Frequency:".toList ++ (value.1 ++ ' ' :: unit.1)
  | .frequency value unit (some channel) =>
    "Frequency:".toList ++ (value.1 ++ ' ' :: unit.1 ++ " (Channel ".toList ++ channel.1 ++ [')'])
  | .quality a b levels =>
    "Quality".toList ++ ('=' :: qualityText (a, b) ++ [' ', ' '] ++ levels.1)
  | .encryption text => "Encryption key:".toList ++ text.1
  | .bitRates text => "Bit Rates:".toList ++ text.1
  | .extra text => "Extra:".toList ++ text.1
  | .other text => text.1.1

def Attribute.line (attr : Attribute) : Text := List.replicate 20 ' ' ++ attr.text

structure Cell where
  number : Token
  mac : Token
  attributes : List Attribute

def Cell.heading (cell : Cell) : Text :=
  List.replicate 10 ' ' ++
    ("Cell ".toList ++ (cell.number.1 ++ (" - Address: ".toList ++ cell.mac.1)))

def Cell.lines (cell : Cell) : List Text := cell.heading :: cell.attributes.map Attribute.line

/-- A scan of cells with distinct numbers. -/
structure Printout where
  title : List OtherLine
  cells : List Cell
  distinct : (cells.map Cell.number).Nodup

def Printout.lines (printout : Printout) : List Text :=
  printout.title.map (·.1.1) ++ printout.cells.flatMap Cell.lines ++ [[]]

def Printout.text (printout : Printout) : Text := printout.lines.flatMap (· ++ ['\n'])

/-! ### What is read of an SSID -/

def Attribute.essid? : Attribute → Option Text
  | .essid ssid => some ssid.1
  | _ => none

def Attribute.quality? : Attribute → Option (ℕ × ℕ)
  | .quality a b _ => some (a, b)
  | _ => none

/-- The SSID is read as the text: as a whole, or as what stands before the first `:"` in it, the
quotation mark after it included, less one more character. -/
inductive ReadAs (ssid : Text) : Text → Prop
  | whole (hnot : ¬ ":\"".toList <:+: ssid ++ ['"']) : ReadAs ssid ssid
  | cut (p rest : Text) (hsplit : ssid ++ ['"'] = p ++ ":\"".toList ++ rest)
    (hfirst : ¬ ":\"".toList <:+: p ++ [':']) : ReadAs ssid p.dropLast

/-! ### The texts of a line -/

variable {ssid text : Text} {attr : Attribute} {lines : List Text} {cellData : CellData}

/-- What `getCellESSID` takes for an SSID. -/
def seen (ssid : Text) : Text := ((Text.split ":\"".toList (ssid ++ ['"'])).headD []).dropLast

lemma seen_eq_iff : seen ssid = text ↔ ReadAs ssid text := by
  have hsep : ":\"".toList ≠ [] := List.cons_ne_nil ':' ['"']
  have hcut {p rest : Text} (hsplit : ssid ++ ['"'] = p ++ ":\"".toList ++ rest)
      (hfirst : ¬ ":\"".toList <:+: p ++ [':']) : seen ssid = p.dropLast := by
    rw [seen, hsplit, Text.split_append hsep hfirst, List.headD_cons]
  have hwhole (hnot : ¬ ":\"".toList <:+: ssid ++ ['"']) : seen ssid = ssid := by
    rw [seen, Text.split_eq_singleton hnot, List.headD_cons, List.dropLast_concat]
  constructor
  · rintro rfl
    by_cases h : ":\"".toList <:+: ssid ++ ['"']
    · obtain ⟨p, rest, hsplit, hfirst⟩ := Text.exists_first_place hsep h
      rw [hcut hsplit hfirst]
      exact .cut p rest hsplit hfirst
    · rw [hwhole h]
      exact .whole h
  · intro h
    cases h with
    | whole hnot => exact hwhole hnot
    | cut p rest hsplit hfirst => exact hcut hsplit hfirst

lemma blank_of_mem_replicate {n : ℕ} {c : Char} (h : c ∈ List.replicate n ' ') :
    Text.blank c = true := by
  rw [List.eq_of_mem_replicate h]
  rfl

/-- A line begins with its key when it is stripped. -/
lemma strip_line (attr : Attribute) {key rest : Text} (hkey : Text.Solid key)
    (h : attr.text = key ++ rest) :
    Text.strip attr.line = key ++ rest.rdropWhile Text.blank := by
  rw [Attribute.line, h, ← List.append_assoc]
  exact Text.strip_append (fun _ => blank_of_mem_replicate) hkey

lemma getCellESSID_line (ssid : Line) :
    getCellESSID (Attribute.essid ssid).line = some (seen ssid.1) := by
  have hkey : Text.Solid "ESSID:\"".toList := by decide
  have hnot : ':' ∉ "ESSID".toList := by decide
  have hrest : (ssid.1 ++ ['"']).rdropWhile Text.blank = ssid.1 ++ ['"'] :=
    List.rdropWhile_concat_neg _ _ _ Bool.false_ne_true
  obtain ⟨piece, pieces, hsplit⟩ :=
    List.exists_cons_of_ne_nil (Text.split_ne_nil ":\"".toList (ssid.1 ++ ['"']))
  have hline : Text.split ":\"".toList ("ESSID:\"".toList ++ (ssid.1 ++ ['"']))
      = "ESSID".toList :: Text.split ":\"".toList (ssid.1 ++ ['"']) :=
    Text.split_append_sep hnot (ssid.1 ++ ['"'])
  rw [getCellESSID, strip_line (.essid ssid) hkey rfl, hrest, hline, hsplit, seen, hsplit]
  rfl

/-- The characters a quality is printed with. -/
lemma mem_qualityText {q : ℕ × ℕ} {c : Char} (h : c ∈ '=' :: qualityText q) :
    c = '=' ∨ c = '/' ∨ c.isDigit = true := by
  have hdigits {n : ℕ} (h : c ∈ Nat.toDigits 10 n) : c.isDigit = true :=
    Nat.isDigit_of_mem_toDigits (by decide) (by decide) h
  rw [qualityText, List.mem_cons, List.mem_append, List.mem_cons] at h
  rcases h with h | h | h | h
  · exact .inl h
  · exact .inr (.inr (hdigits h))
  · exact .inr (.inl h)
  · exact .inr (.inr (hdigits h))

lemma solid_qualityText (q : ℕ × ℕ) : Text.Solid ('=' :: qualityText q) := by
  refine Text.solid_of_forall (List.cons_ne_nil _ _) fun c hc => ?_
  rcases mem_qualityText hc with rfl | rfl | h
  · rfl
  · rfl
  · exact Text.blank_of_isDigit h

lemma not_mem_qualityText {c : Char} (hdigit : c.isDigit = false) (hc : c ∉ ['=', '/', ' '])
    (q : ℕ × ℕ) : c ∉ '=' :: qualityText q ++ [' ', ' '] := by
  rw [List.mem_append]
  rintro (h | h)
  · rcases mem_qualityText h with rfl | rfl | h
    · exact hc (by simp)
    · exact hc (by simp)
    · exact Bool.false_ne_true (hdigit.symm.trans h)
  · simp only [List.mem_cons, List.not_mem_nil, or_false, or_self] at h
    exact hc (by simp [h])

/-- The line of a quality, cut where the key is. -/
lemma quality_line (a b : ℕ) (levels : Line) : (Attribute.quality a b levels).line
    = List.replicate 20 ' ' ++
      ("Quality".toList ++ ('=' :: qualityText (a, b) ++ [' ', ' '] ++ levels.1)) :=
  rfl

lemma getCellQuality_line (a b : ℕ) (levels : Line) :
    getCellQuality (Attribute.quality a b levels).line = some (qualityText (a, b)) := by
  have hpad : 'Q' ∉ List.replicate 20 ' ' := by decide
  obtain ⟨piece, pieces, hsplit⟩ :=
    List.exists_cons_of_ne_nil (Text.split_ne_nil "Quality".toList levels.1)
  have hleft : Text.split "Quality".toList ('=' :: qualityText (a, b) ++ [' ', ' '] ++ levels.1)
      = ('=' :: qualityText (a, b) ++ [' ', ' '] ++ piece) :: pieces := by
    have hnot : 'Q' ∉ '=' :: qualityText (a, b) ++ [' ', ' '] :=
      not_mem_qualityText (by decide) (by decide) (a, b)
    refine (Text.split_append_left hnot levels.1).trans ?_
    exact congrArg _ hsplit
  have hline : Text.split "Quality".toList (Attribute.quality a b levels).line
      = List.replicate 20 ' ' :: ('=' :: qualityText (a, b) ++ [' ', ' '] ++ piece) :: pieces :=
    (Text.split_append_sep hpad _).trans (congrArg _ hleft)
  have hstrip : Text.strip ('=' :: qualityText (a, b) ++ [' ', ' '] ++ piece)
      = '=' :: qualityText (a, b) ++ ([' ', ' '] ++ piece).rdropWhile Text.blank := by
    have hnil : ∀ c ∈ ([] : Text), Text.blank c = true := by simp
    rw [List.append_assoc]
    exact Text.strip_append hnil (solid_qualityText (a, b))
  have hblank : ' ' ∉ '=' :: qualityText (a, b) := by
    intro h
    rcases mem_qualityText h with h | h | h <;> cases h
  have hfield := Text.splitOn_zero_append hblank
    (Text.rdropWhile_cons Text.blank ' ' ([' '] ++ piece))
  rw [getCellQuality, hline]
  show ((Text.strip ('=' :: qualityText (a, b) ++ [' ', ' '] ++ piece)).splitOn ' ')[0]?.map
    (List.drop 1) = some (qualityText (a, b))
  rw [hstrip]
  exact congrArg (Option.map (List.drop 1)) hfield

lemma getCellSignal_line (a b : ℕ) {levels : Line} :
    (getCellSignal (Attribute.quality a b levels).line).isSome ↔
      "Signal level".toList <:+: levels.1 := by
  have hnot : 'S' ∉ List.replicate 20 ' ' ++
      ("Quality".toList ++ ('=' :: qualityText (a, b) ++ [' ', ' '])) := by
    rw [List.mem_append, List.mem_append, not_or, not_or]
    exact ⟨by decide, by decide, not_mem_qualityText (by decide) (by decide) (a, b)⟩
  have hsep : "Signal level".toList ≠ [] := List.cons_ne_nil 'S' "ignal level".toList
  have hline : (Text.split "Signal level".toList (Attribute.quality a b levels).line)[1]?
      = (Text.split "Signal level".toList levels.1)[1]? := by
    rw [quality_line, ← List.append_assoc, ← List.append_assoc]
    show (Text.split ('S' :: "ignal level".toList) _)[1]? = _
    rw [List.append_assoc (List.replicate 20 ' '), Text.split_append_left hnot levels.1,
      List.getElem?_modifyHead_succ]
    rfl
  rw [← Text.split_getElem?_one hsep, getCellSignal, hline]
  cases (Text.split "Signal level".toList levels.1)[1]? with
  | none => simp
  | some piece =>
    obtain ⟨field, fields, hfields⟩ :=
      List.exists_cons_of_ne_nil (List.splitOn_ne_nil ' ' (Text.strip piece))
    simp [hfields]

/-! ### Fields -/

lemma Token.not_mem {c : Char} (hc : Text.blank c = true) (token : Token) : c ∉ token.1 := by
  intro hmem
  exact List.any_eq_false.mp token.2.2 c hmem hc

lemma Token.solid (token : Token) : Text.Solid token.1 :=
  Text.solid_of_forall token.2.1 fun _ hmem =>
    Bool.eq_false_iff.mpr (List.any_eq_false.mp token.2.2 _ hmem)

/-- A line whose key has a colon has it when it is stripped. -/
lemma colon_mem_strip (attr : Attribute) {key rest : Text} (hkey : Text.Solid key)
    (hcolon : ':' ∈ key) (h : attr.text = key ++ rest) : ':' ∈ Text.strip attr.line := by
  rw [strip_line attr hkey h]
  exact List.mem_append_left _ hcolon

lemma colon_mem_line (attr : Attribute) {key rest : Text} (hcolon : ':' ∈ key)
    (h : attr.text = key ++ rest) : ':' ∈ attr.line := by
  rw [Attribute.line, h]
  exact List.mem_append_right _ (List.mem_append_left _ hcolon)

lemma exists_getCellFrequency {s : Text} (hcolon : ':' ∈ s) :
    ∃ frequency, getCellFrequency s = some frequency := by
  obtain ⟨piece, hpiece⟩ := Text.exists_splitOn_one hcolon
  obtain ⟨field, fields, hfields⟩ :=
    List.exists_cons_of_ne_nil (List.splitOn_ne_nil ' ' (Text.strip piece))
  exact ⟨field, by simp [getCellFrequency, hpiece, hfields]⟩

lemma strip_solid_line (h : Text.Solid attr.text) : Text.strip attr.line = attr.text :=
  Text.strip_pad (fun _ => blank_of_mem_replicate) h

lemma solid_frequency (value unit : Token) (channel : Option Token) :
    Text.Solid (Attribute.frequency value unit channel).text := by
  have hkey : Text.Solid "Frequency:".toList := by decide
  cases channel with
  | none =>
    have happend (key v u : Text) : key ++ (v ++ [' ']) ++ u = key ++ (v ++ ' ' :: u) := by simp
    have hsolid := hkey.append (t := value.1 ++ [' ']) unit.solid
    rwa [happend] at hsolid
  | some channel =>
    have hend : Text.Solid [')'] := by decide
    have htext : (Attribute.frequency value unit (some channel)).text
        = "Frequency:".toList ++ (value.1 ++ ' ' :: unit.1 ++ " (Channel ".toList ++ channel.1)
          ++ [')'] :=
      (List.append_assoc ..).symm
    rw [htext]
    exact hkey.append hend

/-- A frequency without its channel has two fields. -/
lemma getCellChannel_line_none (value unit : Token) :
    getCellChannel (Attribute.frequency value unit none).line = none := by
  have htext : (Attribute.frequency value unit none).text
      = ("Frequency:".toList ++ value.1) ++ ' ' :: unit.1 :=
    (List.append_assoc ..).symm
  have hvalue : ' ' ∉ "Frequency:".toList ++ value.1 := by
    rw [List.mem_append, not_or]
    exact ⟨by decide, value.not_mem rfl⟩
  rw [getCellChannel, strip_solid_line (solid_frequency value unit none), htext,
    List.splitOn_append_cons_self_of_not_mem hvalue, List.splitOn_eq_singleton (unit.not_mem rfl)]
  rfl

lemma exists_getCellChannel_line (value unit channel : Token) :
    ∃ channel', getCellChannel (Attribute.frequency value unit (some channel)).line
      = some channel' := by
  have htext : (Attribute.frequency value unit (some channel)).text
      = ("Frequency:".toList ++ value.1) ++ ' ' ::
        (unit.1 ++ ' ' :: ("(Channel".toList ++ ' ' :: (channel.1 ++ [')']))) := by
    have happend (key v u k c : Text) :
        key ++ (v ++ ' ' :: u ++ (' ' :: (k ++ [' '])) ++ c ++ [')'])
        = (key ++ v) ++ ' ' :: (u ++ ' ' :: (k ++ ' ' :: (c ++ [')']))) := by
      simp
    exact happend "Frequency:".toList value.1 unit.1 "(Channel".toList channel.1
  have hvalue : ' ' ∉ "Frequency:".toList ++ value.1 := by
    rw [List.mem_append, not_or]
    exact ⟨by decide, value.not_mem rfl⟩
  obtain ⟨field, fields, hfields⟩ :=
    List.exists_cons_of_ne_nil (List.splitOn_ne_nil ' ' (channel.1 ++ [')']))
  refine ⟨field.dropLast, ?_⟩
  rw [getCellChannel, strip_solid_line (solid_frequency value unit channel), htext,
    List.splitOn_append_cons_self_of_not_mem hvalue,
    List.splitOn_append_cons_self_of_not_mem (unit.not_mem rfl),
    List.splitOn_append_cons_self_of_not_mem (by decide), hfields]
  rfl

lemma exists_getCellExtra {s : Text} (hcolon : ':' ∈ s) : ∃ extra, getCellExtra s = some extra := by
  obtain ⟨piece, hpiece⟩ := Text.exists_splitOn_one hcolon
  rw [getCellExtra]
  split_ifs
  · exact ⟨_, rfl⟩
  · exact ⟨piece, hpiece⟩

/-- Bit rates are read exactly if two lines come after the first line that is equal to theirs. -/
lemma getCellBitRates_isSome {s : Text} (hcolon : ':' ∈ s) :
    (getCellBitRates s lines).isSome ↔ lines.idxOf s + 2 < lines.length := by
  constructor
  · intro h
    by_contra hlen
    have hthird : lines[lines.idxOf s + 2]? = none :=
      List.getElem?_eq_none (Nat.le_of_not_lt hlen)
    simp [getCellBitRates, hthird] at h
  · intro h
    have hfirst : lines[lines.idxOf s]? = some s := by
      rw [List.getElem?_eq_getElem (by omega), List.getElem_idxOf]
    have hsecond := List.getElem?_eq_getElem (l := lines) (i := lines.idxOf s + 1) (by omega)
    have hthird := List.getElem?_eq_getElem h
    obtain ⟨piece, hpiece⟩ := Text.exists_splitOn_one hcolon
    simp [getCellBitRates, hfirst, hsecond, hthird, hpiece]

/-! ### Reading a line -/

/-- Reading the line does not raise. -/
def Attribute.Parses (lines : List Text) : Attribute → Prop
  | .frequency _ _ channel => channel ≠ none
  | .quality _ _ levels => "Signal level".toList <:+: levels.1
  | .bitRates text => lines.idxOf (Attribute.bitRates text).line + 2 < lines.length
  | _ => True

/-- A line that is not read changes nothing. -/
lemma parseLine_other (text : OtherLine) :
    parseLine lines cellData (Attribute.other text).line = some cellData := by
  have hlstrip : Text.lstrip (Attribute.other text).line = Text.lstrip text.1.1 :=
    List.dropWhile_append_of_pos fun _ => blank_of_mem_replicate
  have hkeys : ∀ key ∈ lineKeys,
      Text.startsWith (Text.strip (Attribute.other text).line) key.toList = false := by
    intro key hmem
    rw [Bool.eq_false_iff]
    intro h
    have hstarts := Text.startsWith_lstrip h
    rw [hlstrip, text.2 key hmem] at hstarts
    cases hstarts
  simp only [lineKeys, List.forall_mem_cons] at hkeys
  obtain ⟨hcell, hessid, hprotocol, hmode, hfrequency, hquality, hencryption, hrates, hextra, -⟩ :=
    hkeys
  simp only [parseLine, whenLine, hcell, hessid, hprotocol, hmode, hfrequency, hquality,
    hencryption, hrates, hextra]
  rfl

/-- Of what the search goes by, a line changes what it prints. -/
lemma parseLine_of_parses (h : attr.Parses lines) :
    ∃ cellData', parseLine lines cellData attr.line = some cellData' ∧
      cellData'.number = cellData.number ∧
      cellData'.essid = (attr.essid?.map seen).or cellData.essid ∧
      cellData'.quality = (attr.quality?.map qualityText).or cellData.quality := by
  cases attr with
  | essid ssid =>
    have hkey : Text.Solid "ESSID:\"".toList := by decide
    have hstrip := strip_line (.essid ssid) hkey rfl
    simp [parseLine, whenLine, hstrip, Text.startsWith, getCellESSID_line, Attribute.essid?,
      Attribute.quality?]
  | protocol text =>
    have hkey : Text.Solid "Protocol:".toList := by decide
    have hstrip := strip_line (.protocol text) hkey rfl
    obtain ⟨protocol, hprotocol⟩ : ∃ protocol, getCellProtocol _ = some protocol :=
      Text.exists_splitOn_one (colon_mem_strip (.protocol text) hkey (by decide) rfl)
    simp [parseLine, whenLine, hstrip, Text.startsWith, hprotocol, Attribute.essid?,
      Attribute.quality?]
  | mode text =>
    have hkey : Text.Solid "Mode:".toList := by decide
    have hstrip := strip_line (.mode text) hkey rfl
    obtain ⟨mode, hmode⟩ : ∃ mode, getCellMode _ = some mode :=
      Text.exists_splitOn_one (colon_mem_strip (.mode text) hkey (by decide) rfl)
    simp [parseLine, whenLine, hstrip, Text.startsWith, hmode, Attribute.essid?,
      Attribute.quality?]
  | frequency value unit channel =>
    cases channel with
    | none => exact absurd rfl h
    | some channel =>
      have hkey : Text.Solid "Frequency:".toList := by decide
      have hstrip := strip_line (.frequency value unit (some channel)) hkey rfl
      obtain ⟨frequency, hfrequency⟩ := exists_getCellFrequency
        (colon_mem_line (.frequency value unit (some channel)) (by decide) rfl)
      obtain ⟨channel', hchannel⟩ := exists_getCellChannel_line value unit channel
      simp [parseLine, whenLine, hstrip, Text.startsWith, hfrequency, hchannel, Attribute.essid?,
        Attribute.quality?]
  | quality a b levels =>
    have hkey : Text.Solid "Quality".toList := by decide
    have hstrip := strip_line (.quality a b levels) hkey rfl
    obtain ⟨signal, hsignal⟩ :=
      Option.isSome_iff_exists.mp ((getCellSignal_line a b).mpr h)
    simp [parseLine, whenLine, hstrip, Text.startsWith, getCellQuality_line, hsignal,
      Attribute.essid?, Attribute.quality?]
  | encryption text =>
    have hkey : Text.Solid "Encryption key:".toList := by decide
    have hstrip := strip_line (.encryption text) hkey rfl
    obtain ⟨encryption, hencryption⟩ : ∃ encryption, getCellEncryption _ = some encryption :=
      Text.exists_splitOn_one (colon_mem_strip (.encryption text) hkey (by decide) rfl)
    simp [parseLine, whenLine, hstrip, Text.startsWith, hencryption, Attribute.essid?,
      Attribute.quality?]
  | bitRates text =>
    have hkey : Text.Solid "Bit Rates:".toList := by decide
    have hstrip := strip_line (.bitRates text) hkey rfl
    have hcolon := colon_mem_line (.bitRates text) (by decide) rfl
    obtain ⟨bitRates, hbitRates⟩ :=
      Option.isSome_iff_exists.mp ((getCellBitRates_isSome hcolon).mpr h)
    simp [parseLine, whenLine, hstrip, Text.startsWith, hbitRates, Attribute.essid?,
      Attribute.quality?]
  | extra text =>
    have hkey : Text.Solid "Extra:".toList := by decide
    have hstrip := strip_line (.extra text) hkey rfl
    obtain ⟨extra, hextra⟩ := exists_getCellExtra
      (colon_mem_line (.extra text) (by decide) rfl)
    simp [parseLine, whenLine, hstrip, Text.startsWith, hextra, Attribute.essid?,
      Attribute.quality?]
  | other text =>
    rw [parseLine_other text]
    exact ⟨cellData, rfl, rfl, rfl, rfl⟩

/-- A line that does not parse raises. -/
lemma parseLine_of_not_parses (h : ¬ attr.Parses lines) :
    parseLine lines cellData attr.line = none := by
  cases attr with
  | frequency value unit channel =>
    cases channel with
    | none =>
      have hkey : Text.Solid "Frequency:".toList := by decide
      have hstrip := strip_line (.frequency value unit none) hkey rfl
      simp [parseLine, whenLine, hstrip, Text.startsWith, getCellChannel_line_none]
    | some channel => exact absurd (Option.some_ne_none channel) h
  | quality a b levels =>
    have hkey : Text.Solid "Quality".toList := by decide
    have hstrip := strip_line (.quality a b levels) hkey rfl
    have hsignal := Option.not_isSome_iff_eq_none.mp (mt (getCellSignal_line a b).mp h)
    simp [parseLine, whenLine, hstrip, Text.startsWith, hsignal]
  | bitRates text =>
    have hkey : Text.Solid "Bit Rates:".toList := by decide
    have hstrip := strip_line (.bitRates text) hkey rfl
    have hcolon := colon_mem_line (.bitRates text) (by decide) rfl
    have hbitRates := Option.not_isSome_iff_eq_none.mp (mt (getCellBitRates_isSome hcolon).mp h)
    simp [parseLine, whenLine, hstrip, Text.startsWith, hbitRates]
  | essid | protocol | mode | encryption | extra | other => exact absurd trivial h

lemma newline_not_mem_line (attr : Attribute) : '\n' ∉ attr.line := by
  have hpad : '\n' ∉ List.replicate 20 ' ' := by decide
  have happend {key rest : Text} (hkey : '\n' ∉ key) (hrest : '\n' ∉ rest) :
      '\n' ∉ key ++ rest :=
    List.not_mem_append hkey hrest
  have hcons {c : Char} {rest : Text} (hc : '\n' ≠ c) (hrest : '\n' ∉ rest) : '\n' ∉ c :: rest :=
    List.not_mem_cons_of_ne_of_not_mem hc hrest
  refine List.not_mem_append hpad ?_
  cases attr with
  | essid ssid => exact happend (by decide) (happend ssid.2 (by decide))
  | protocol text | mode text | encryption text | bitRates text | extra text =>
    exact happend (by decide) text.2
  | frequency value unit channel =>
    have hunit : '\n' ∉ value.1 ++ ' ' :: unit.1 :=
      happend (value.not_mem rfl) (hcons (by decide) (unit.not_mem rfl))
    cases channel with
    | none => exact happend (by decide) hunit
    | some channel =>
      have hchannel : '\n' ∉ channel.1 := channel.not_mem rfl
      exact happend (by decide) (happend (happend (happend hunit (by decide)) hchannel) (by decide))
  | quality a b levels =>
    have hquality := not_mem_qualityText (c := '\n') (by decide) (by decide) (a, b)
    exact happend (by decide) (happend hquality levels.2)
  | other text => exact text.1.2

/-- The line of an attribute begins no cell. -/
lemma line_not_begins (attr : Attribute) :
    Text.startsWith (Text.lstrip attr.line) "Cell ".toList = false := by
  cases attr with
  | essid | protocol | mode | quality | encryption | bitRates | extra => rfl
  | frequency value unit channel =>
    cases channel with
    | none | some channel => rfl
  | other text =>
    have hlstrip : Text.lstrip (Attribute.other text).line = Text.lstrip text.1.1 :=
      List.dropWhile_append_of_pos fun _ => blank_of_mem_replicate
    rw [hlstrip]
    exact text.2 "Cell " (by decide)

end SecuredApp
