import SecuredApp.Mobility.Printout

/-!
# The signal of a network

The cells of a scan, read from the lines that `iwlist` prints of them, and the signal that
`getSignal` finds in them.
-/

namespace SecuredApp

open SecuredApp.Core

/-! ### What is asked for -/

/-- The SSID of a cell; of several it is the last. -/
def Cell.essid (cell : Cell) : Option Text := cell.attributes.reverse.findSome? Attribute.essid?

/-- The quality of a cell; of several it is the last. -/
def Cell.quality (cell : Cell) : Option (ℕ × ℕ) :=
  cell.attributes.reverse.findSome? Attribute.quality?

/-- No line of the cell is such that reading it raises: a frequency comes with its channel, a
quality with a signal level, and after bit rates there are two more lines. -/
structure Cell.Parses (cell : Cell) : Prop where
  channel : ∀ value unit, .frequency value unit none ∉ cell.attributes
  level : ∀ a b levels, .quality a b levels ∈ cell.attributes →
    "Signal level".toList <:+: levels.1
  rates : ∀ text before after, cell.attributes = before ++ .bitRates text :: after →
    .bitRates text ∉ before → 2 ≤ after.length

/-- Every cell can be read and has an SSID, and one of them is read as the text. -/
structure Printout.Finds (printout : Printout) (ssid : Text) (q : Rat) : Prop where
  parses : ∀ cell ∈ printout.cells, cell.Parses
  named : ∀ cell ∈ printout.cells, cell.essid ≠ none
  found : ∃ cell ∈ printout.cells, ∃ essid ∈ cell.essid, ReadAs essid ssid
  quality : ∀ cell ∈ printout.cells, ∀ essid ∈ cell.essid, ReadAs essid ssid →
    ∃ a b, cell.quality = some (a, b) ∧ b ≠ 0 ∧ (a / b : Rat) = q

/-! ### Reading a cell -/

variable {ssid : Text} {attr : Attribute} {lines : List Text} {cellData : CellData} {cell : Cell}
  {attributes : List Attribute}

/-- What the search goes by in the entry of a cell. -/
structure Cell.ReadInto (cell : Cell) (entry : Text × CellData) : Prop where
  number : entry.1 = cell.number.1
  essid : entry.2.essid = cell.essid.map seen
  quality : entry.2.quality = cell.quality.map qualityText

lemma parseLine_heading (cell : Cell) : parseLine lines cellData cell.heading
    = some { cellData with number := some cell.number.1, mac := some cell.mac.1 } := by
  have hkey : Text.Solid "Cell".toList := by decide
  have hend (k n a m : Text) : k ++ (' ' :: (n ++ (a ++ [' ']))) ++ m
      = k ++ ' ' :: (n ++ (a ++ ' ' :: m)) := by simp
  have hsolid := hkey.append (t := ' ' :: (cell.number.1 ++ (" - Address:".toList ++ [' '])))
    cell.mac.solid
  rw [hend] at hsolid
  have hstrip : Text.strip cell.heading
      = "Cell ".toList ++ (cell.number.1 ++ (" - Address: ".toList ++ cell.mac.1)) :=
    Text.strip_pad (fun _ => blank_of_mem_replicate) hsolid
  have hsplit : (Text.strip cell.heading).splitOn ' '
      = ["Cell".toList, cell.number.1, "-".toList, "Address:".toList, cell.mac.1] := by
    rw [hstrip]
    show ("Cell".toList ++ ' ' :: (cell.number.1 ++ ' ' :: ("-".toList ++ ' ' ::
      ("Address:".toList ++ ' ' :: cell.mac.1)))).splitOn ' ' = _
    rw [List.splitOn_append_cons_self_of_not_mem (by decide),
      List.splitOn_append_cons_self_of_not_mem (cell.number.not_mem rfl),
      List.splitOn_append_cons_self_of_not_mem (by decide),
      List.splitOn_append_cons_self_of_not_mem (by decide),
      List.splitOn_eq_singleton (cell.mac.not_mem rfl)]
  have hnumber : getCellNumber cell.heading = some cell.number.1 := by
    rw [getCellNumber, hsplit]
    rfl
  have hmac : getCellMAC cell.heading = some cell.mac.1 := by
    rw [getCellMAC, hsplit]
    rfl
  simp [parseLine, whenLine, hstrip, Text.startsWith, hnumber, hmac]

/-- A loop raises if one of its passes does, whatever it begins with. -/
lemma foldlM_eq_none {α β : Type} {f : β → α → Option β} {l : List α} {a : α} (hmem : a ∈ l)
    (h : ∀ b, f b a = none) (b : β) : l.foldlM f b = none := by
  obtain ⟨before, after, rfl⟩ := List.append_of_mem hmem
  rw [List.foldlM_append]
  cases before.foldlM f b with
  | none => rfl
  | some b' =>
    show (a :: after).foldlM f b' = none
    rw [List.foldlM_cons, h]
    rfl

/-- What is printed later counts. -/
lemma last_cons {β : Type} (f : Attribute → Option β) (g : β → Text) (attr : Attribute)
    (text : Option Text) : (((attr :: attributes).reverse.findSome? f).map g).or text
      = ((attributes.reverse.findSome? f).map g).or (((f attr).map g).or text) := by
  rw [List.reverse_cons, List.findSome?_append, List.findSome?_singleton, Option.map_or,
    Option.or_assoc]

/-- The line of bit rates is that of no other attribute. -/
lemma eq_of_line_eq_bitRates {rates : Line} (h : attr.line = (Attribute.bitRates rates).line) :
    attr = .bitRates rates := by
  have htext : attr.text = "Bit Rates:".toList ++ rates.1 := List.append_cancel_left h
  have hread : Text.startsWith attr.text "Bit Rates:".toList = true := by
    rw [htext]
    rfl
  cases attr with
  | bitRates text => exact congrArg _ (Subtype.ext (List.append_cancel_left htext))
  | other text =>
    have hlstrip : Text.lstrip text.1.1 = text.1.1 := by
      show Text.lstrip (Attribute.other text).text = (Attribute.other text).text
      rw [htext]
      rfl
    have hnot := text.2 "Bit Rates:" (by decide)
    rw [hlstrip] at hnot
    exact absurd (hnot.symm.trans hread) Bool.false_ne_true
  | frequency value unit channel =>
    cases channel with
    | none | some channel => exact absurd hread Bool.false_ne_true
  | essid | protocol | mode | quality | encryption | extra =>
    exact absurd hread Bool.false_ne_true

lemma idxOf_bitRates {rates : Line} {before after : List Attribute}
    (hsplit : cell.attributes = before ++ .bitRates rates :: after)
    (hnot : .bitRates rates ∉ before) :
    cell.lines.idxOf (Attribute.bitRates rates).line = before.length + 1 := by
  have hheading : cell.heading ≠ (Attribute.bitRates rates).line := by
    intro h
    have hblank : cell.heading[10]? = (Attribute.bitRates rates).line[10]? := by rw [h]
    exact absurd (Option.some.inj hblank) (by decide)
  have hbefore : (Attribute.bitRates rates).line ∉ before.map Attribute.line := by
    rw [List.mem_map]
    rintro ⟨attr, hmem, hline⟩
    exact hnot (eq_of_line_eq_bitRates hline ▸ hmem)
  rw [Cell.lines, hsplit, List.idxOf_cons_ne _ hheading, List.map_append,
    List.idxOf_append_of_notMem hbefore, List.map_cons, List.idxOf_cons_self, List.length_map]

/-- The lines of a cell that parses leave what is printed last. -/
lemma foldlM_parseLine (h : ∀ attr ∈ attributes, attr.Parses lines) (cellData : CellData) :
    ∃ cellData', (attributes.map Attribute.line).foldlM (parseLine lines) cellData
        = some cellData' ∧
      cellData'.number = cellData.number ∧
      cellData'.essid
        = ((attributes.reverse.findSome? Attribute.essid?).map seen).or cellData.essid ∧
      cellData'.quality = ((attributes.reverse.findSome? Attribute.quality?).map qualityText).or
        cellData.quality := by
  induction attributes generalizing cellData with
  | nil => exact ⟨cellData, rfl, rfl, rfl, rfl⟩
  | cons attr attributes ih =>
    rw [List.forall_mem_cons] at h
    obtain ⟨cellData₁, hline, hnumber, hessid, hquality⟩ := parseLine_of_parses h.1
    obtain ⟨cellData₂, hlines, hnumber₂, hessid₂, hquality₂⟩ := ih h.2 cellData₁
    refine ⟨cellData₂, ?_, hnumber₂.trans hnumber, ?_, ?_⟩
    · rw [List.map_cons, List.foldlM_cons, hline]
      exact hlines
    · rw [hessid₂, hessid, last_cons]
    · rw [hquality₂, hquality, last_cons]

lemma foldlM_parseLine_eq_none (h : ∃ attr ∈ attributes, ¬ attr.Parses lines) :
    (attributes.map Attribute.line).foldlM (parseLine lines) cellData = none := by
  obtain ⟨attr, hmem, hnot⟩ := h
  exact foldlM_eq_none (List.mem_map_of_mem hmem) (fun _ => parseLine_of_not_parses hnot) cellData

/-- Reading a line needs of it what reading the cell does. -/
lemma Cell.parses_iff : cell.Parses ↔ ∀ attr ∈ cell.attributes, attr.Parses cell.lines := by
  constructor
  · intro h attr hmem
    cases attr with
    | frequency value unit channel =>
      rintro rfl
      exact h.channel value unit hmem
    | quality a b levels => exact h.level a b levels hmem
    | bitRates text =>
      obtain ⟨before, after, hsplit, hnot⟩ := List.eq_append_cons_of_mem hmem
      have hlen := h.rates text before after hsplit hnot
      show cell.lines.idxOf (Attribute.bitRates text).line + 2 < cell.lines.length
      rw [idxOf_bitRates hsplit hnot, Cell.lines, hsplit]
      simp only [List.length_cons, List.length_map, List.length_append]
      omega
    | essid | protocol | mode | encryption | extra | other => trivial
  · intro h
    constructor
    · intro value unit hmem
      exact h _ hmem rfl
    · intro a b levels hmem
      exact h _ hmem
    · intro text before after hsplit hnot
      have hmem : .bitRates text ∈ cell.attributes := by
        rw [hsplit]
        exact List.mem_append_right before List.mem_cons_self
      have hlen : cell.lines.idxOf (Attribute.bitRates text).line + 2 < cell.lines.length :=
        h _ hmem
      rw [idxOf_bitRates hsplit hnot, Cell.lines, hsplit] at hlen
      simp only [List.length_cons, List.length_map, List.length_append] at hlen
      omega

lemma newline_not_mem_lines (cell : Cell) : ∀ s ∈ cell.lines, '\n' ∉ s := by
  rw [Cell.lines, List.forall_mem_cons]
  constructor
  · have hnumber : '\n' ∉ cell.number.1 := cell.number.not_mem rfl
    have hmac : '\n' ∉ cell.mac.1 := cell.mac.not_mem rfl
    simp only [Cell.heading, List.mem_append, not_or]
    exact ⟨by decide, by decide, hnumber, by decide, hmac⟩
  · rw [List.forall_mem_map]
    exact fun attr _ => newline_not_mem_line attr

/-- The lines of a cell, read one after another. -/
lemma parseCellData_lines (cell : Cell) : parseCellData (['\n'].intercalate cell.lines)
    = ((cell.attributes.map Attribute.line).foldlM (parseLine cell.lines)
        { CellData.empty with number := some cell.number.1, mac := some cell.mac.1 }).bind
        fun cellData => cellData.number.bind fun number => some (number, cellData) := by
  have hsplit : (['\n'].intercalate cell.lines).splitOn '\n' = cell.lines :=
    List.splitOn_intercalate '\n' (newline_not_mem_lines cell) (List.cons_ne_nil _ _)
  rw [parseCellData, hsplit]
  show ((cell.heading :: cell.attributes.map Attribute.line).foldlM (parseLine cell.lines)
    .empty).bind _ = _
  rw [List.foldlM_cons, parseLine_heading]
  rfl

/-- A cell that parses is read into an entry under its number. -/
lemma parseCellData_of_parses (h : cell.Parses) :
    ∃ entry, parseCellData (['\n'].intercalate cell.lines) = some entry ∧ cell.ReadInto entry := by
  obtain ⟨cellData, hlines, hnumber, hessid, hquality⟩ := foldlM_parseLine (Cell.parses_iff.mp h)
    { CellData.empty with number := some cell.number.1, mac := some cell.mac.1 }
  refine ⟨(cell.number.1, cellData), ?_, rfl, hessid.trans (Option.or_none),
    hquality.trans (Option.or_none)⟩
  rw [parseCellData_lines, hlines, Option.bind_some, hnumber, Option.bind_some]

lemma parseCellData_eq_none (h : ¬ cell.Parses) :
    parseCellData (['\n'].intercalate cell.lines) = none := by
  simp only [Cell.parses_iff, not_forall, exists_prop] at h
  rw [parseCellData_lines, foldlM_parseLine_eq_none h, Option.bind_none]

/-! ### Reading a scan -/

/-- A line that begins a cell. -/
lemma addLine_begins {s : Text} (h : Text.startsWith (Text.lstrip s) "Cell ".toList = true)
    (hs : s ≠ []) (cells : List (List Text)) : addLine cells s = cells ++ [[s]] := by
  simp only [addLine, h, if_true, if_neg hs, List.getLast?_concat, List.dropLast_concat,
    List.nil_append]

/-- A line that goes on with the last cell. -/
lemma addLine_goes_on {s : Text} (h : Text.startsWith (Text.lstrip s) "Cell ".toList = false)
    (hs : s ≠ []) (cells : List (List Text)) (cell : List Text) :
    addLine (cells ++ [cell]) s = cells ++ [cell ++ [s]] := by
  simp only [addLine, h, Bool.false_eq_true, if_false, if_neg hs, List.getLast?_concat,
    List.dropLast_concat]

lemma foldl_addLine_attributes (cells : List (List Text)) (cell : List Text) :
    (attributes.map Attribute.line).foldl addLine (cells ++ [cell])
      = cells ++ [cell ++ attributes.map Attribute.line] := by
  induction attributes generalizing cell with
  | nil => rw [List.map_nil, List.append_nil, List.foldl_nil]
  | cons attr attributes ih =>
    have hne : attr.line ≠ [] := List.cons_ne_nil ' ' _
    rw [List.map_cons, List.foldl_cons, addLine_goes_on (line_not_begins attr) hne, ih,
      List.append_assoc, List.singleton_append]

lemma foldl_addLine_cell (cells : List (List Text)) (cell : Cell) :
    cell.lines.foldl addLine cells = cells ++ [cell.lines] := by
  have hne : cell.heading ≠ [] := List.cons_ne_nil ' ' _
  have hbegins : Text.startsWith (Text.lstrip cell.heading) "Cell ".toList = true := rfl
  rw [Cell.lines, List.foldl_cons, addLine_begins hbegins hne, foldl_addLine_attributes,
    List.singleton_append]

lemma foldl_addLine_cells (lines : List (List Text)) (cells : List Cell) :
    (cells.flatMap Cell.lines).foldl addLine lines = lines ++ cells.map Cell.lines := by
  induction cells generalizing lines with
  | nil => rw [List.flatMap_nil, List.foldl_nil, List.map_nil, List.append_nil]
  | cons cell cells ih =>
    rw [List.flatMap_cons, List.foldl_append, foldl_addLine_cell, ih, List.append_assoc,
      List.singleton_append, List.map_cons]

/-- What is printed before the cells belongs to none. -/
lemma foldl_addLine_title (title : List OtherLine) :
    (title.map (·.1.1)).foldl addLine [] = [] := by
  induction title with
  | nil => rfl
  | cons text title ih =>
    have hnot : Text.startsWith (Text.lstrip text.1.1) "Cell ".toList = false :=
      text.2 "Cell " (by decide)
    have hnone : addLine [] text.1.1 = [] := by
      simp only [addLine, hnot, Bool.false_eq_true, if_false, List.getLast?_nil, ite_self]
    rw [List.map_cons, List.foldl_cons, hnone, ih]

lemma newline_not_mem_printed (printout : Printout) : ∀ s ∈ printout.lines, '\n' ∉ s := by
  intro s hs
  rw [Printout.lines, List.mem_append, List.mem_append, List.mem_map, List.mem_flatMap] at hs
  rcases hs with (⟨text, -, rfl⟩ | ⟨cell, -, hs⟩) | hs
  · exact text.1.2
  · exact newline_not_mem_lines cell s hs
  · rw [List.mem_singleton.mp hs]
    exact List.not_mem_nil

/-- The lines of a scan are put together to the cells that they were printed of. -/
lemma foldl_addLine_text (printout : Printout) :
    (printout.text.splitOn '\n').foldl addLine [] = printout.cells.map Cell.lines := by
  have hend (cells : List (List Text)) : addLine cells [] = cells := rfl
  rw [Printout.text, Text.splitOn_lines (newline_not_mem_printed printout), Printout.lines]
  simp only [List.foldl_append, foldl_addLine_title, foldl_addLine_cells, List.nil_append,
    List.foldl_cons, hend, List.foldl_nil]

/-- A dictionary has an entry for each of the cells, and no others. -/
structure Holds (cells : List Cell) (data : List (Text × CellData)) : Prop where
  of_entry : ∀ entry ∈ data, ∃ cell ∈ cells, cell.ReadInto entry
  of_cell : ∀ cell ∈ cells, ∃ entry ∈ data, cell.ReadInto entry

/-- A cell with a number of its own adds its entry. -/
lemma Holds.setItem {cells : List Cell} {data : List (Text × CellData)}
    {entry : Text × CellData} (h : Holds cells data) (hentry : cell.ReadInto entry)
    (hnew : cell.number ∉ cells.map Cell.number) :
    Holds (cells ++ [cell]) (setItem data entry.1 entry.2) := by
  constructor
  · intro entry' hmem
    rcases List.mem_cons.mp hmem with rfl | hold
    · exact ⟨cell, List.mem_append_right cells List.mem_cons_self, hentry⟩
    · obtain ⟨cell', hcell', hread⟩ := h.of_entry entry' (List.mem_of_mem_filter hold)
      exact ⟨cell', List.mem_append_left [cell] hcell', hread⟩
  · intro cell' hmem
    rcases List.mem_append.mp hmem with hold | hlast
    · obtain ⟨entry', hentry', hread⟩ := h.of_cell cell' hold
      refine ⟨entry', List.mem_cons_of_mem _ (List.mem_filter.mpr ⟨hentry', ?_⟩), hread⟩
      rw [decide_eq_true_eq, hread.number, hentry.number]
      intro heq
      exact hnew (List.mem_map.mpr ⟨cell', hold, Subtype.ext heq⟩)
    · rw [List.mem_singleton.mp hlast]
      exact ⟨entry, List.mem_cons_self, hentry⟩

/-- Reading one cell after another. -/
def readCell (data : List (Text × CellData)) (cell : Cell) : Option (List (Text × CellData)) :=
  (parseCellData (['\n'].intercalate cell.lines)).map fun entry => setItem data entry.1 entry.2

lemma parseRawData_text (printout : Printout) :
    parseRawData printout.text = printout.cells.foldlM readCell [] := by
  rw [parseRawData, foldl_addLine_text, List.foldlM_map]
  congr 1
  funext data cell
  rw [readCell]
  cases parseCellData (['\n'].intercalate cell.lines) with
  | none => rfl
  | some entry => rfl

lemma foldlM_readCell {cells rest : List Cell} {data : List (Text × CellData)}
    (h : Holds cells data) (hparses : ∀ cell ∈ rest, cell.Parses)
    (hnodup : ((cells ++ rest).map Cell.number).Nodup) :
    ∃ data', rest.foldlM readCell data = some data' ∧ Holds (cells ++ rest) data' := by
  induction rest generalizing cells data with
  | nil => exact ⟨data, rfl, (List.append_nil cells).symm ▸ h⟩
  | cons cell rest ih =>
    rw [List.forall_mem_cons] at hparses
    obtain ⟨entry, hparse, hentry⟩ := parseCellData_of_parses hparses.1
    have hnew : cell.number ∉ cells.map Cell.number := by
      rw [List.map_append, List.map_cons] at hnodup
      intro hmem
      exact (List.nodup_append.mp hnodup).2.2 _ hmem _ List.mem_cons_self rfl
    have hcells : cells ++ cell :: rest = cells ++ [cell] ++ rest := List.append_cons ..
    rw [hcells] at hnodup ⊢
    have hread : readCell data cell = some (setItem data entry.1 entry.2) := by
      rw [readCell, hparse, Option.map_some]
    rw [List.foldlM_cons, hread]
    exact ih (h.setItem hentry hnew) hparses.2 hnodup

lemma foldlM_readCell_eq_none {cells : List Cell} {data : List (Text × CellData)}
    (h : ∃ cell ∈ cells, ¬ cell.Parses) : cells.foldlM readCell data = none := by
  obtain ⟨cell, hmem, hnot⟩ := h
  refine foldlM_eq_none hmem (fun data' => ?_) data
  rw [readCell, parseCellData_eq_none hnot, Option.map_none]

/-- A scan whose cells all parse is read into an entry for each of them. -/
lemma parseRawData_of_parses {printout : Printout}
    (h : ∀ cell ∈ printout.cells, cell.Parses) :
    ∃ data, parseRawData printout.text = some data ∧ Holds printout.cells data := by
  have hnone : Holds [] [] := by
    constructor
    · intro entry h
      cases h
    · intro cell h
      cases h
  rw [parseRawData_text]
  exact foldlM_readCell hnone h printout.distinct

lemma parses_of_parseRawData {printout : Printout}
    (h : (parseRawData printout.text).isSome) : ∀ cell ∈ printout.cells, cell.Parses := by
  intro cell hmem
  by_contra hnot
  rw [parseRawData_text, foldlM_readCell_eq_none ⟨cell, hmem, hnot⟩] at h
  cases h

/-! ### The search -/

/-- Of a quality that is printed the search has the percentage, unless it divides by 0. -/
lemma percentage_qualityText (q : ℕ × ℕ) : percentage (qualityText q)
    = if q.2 = 0 then none else some ((q.1 / q.2 : Rat) * 100) := by
  have hnot (n : ℕ) : '/' ∉ Nat.toDigits 10 n := by
    intro hmem
    have hdigit := Nat.isDigit_of_mem_toDigits (by decide) (by decide) hmem
    cases hdigit
  have hsplit : (qualityText q).splitOn '/' = [Nat.toDigits 10 q.1, Nat.toDigits 10 q.2] := by
    rw [qualityText, List.splitOn_append_cons_self_of_not_mem (hnot q.1),
      List.splitOn_eq_singleton (hnot q.2)]
  simp only [percentage, hsplit]
  simp [Text.float_toDigits]

/-- The search does not go past the entry without the quality, if it is the network's. -/
def Leads (ssid : Text) (r : Rat) (cellinfo : CellData) : Prop :=
  ∃ essid ∈ cellinfo.essid, essid = ssid →
    ∃ q ∈ cellinfo.quality, q ≠ [] ∧ percentage q = some r

variable {r : Rat} {cellinfo : CellData} {cells : List CellData}

lemma leads_of_searchCells (hq : cellinfo.quality ≠ some [])
    (h : searchCells ssid (cellinfo :: cells) = some (some r)) : Leads ssid r cellinfo := by
  rw [searchCells] at h
  obtain ⟨essid, hessid, h⟩ := Option.bind_eq_some_iff.mp h
  refine ⟨essid, hessid, fun heq => ?_⟩
  rw [if_pos heq] at h
  obtain ⟨q, hquality, h⟩ := Option.bind_eq_some_iff.mp h
  have hne : q ≠ [] := by
    rintro rfl
    exact hq hquality
  rw [if_pos hne] at h
  obtain ⟨q', hq', hsome⟩ := Option.map_eq_some_iff.mp h
  exact ⟨q, hquality, hne, hq'.trans hsome⟩

lemma searchCells_of_leads (h : ∀ cellinfo ∈ cells, Leads ssid r cellinfo)
    (hfound : ∃ cellinfo ∈ cells, cellinfo.essid = some ssid) :
    searchCells ssid cells = some (some r) := by
  induction cells with
  | nil =>
    obtain ⟨cellinfo, hmem, -⟩ := hfound
    cases hmem
  | cons cellinfo cells ih =>
    rw [List.forall_mem_cons] at h
    obtain ⟨⟨essid, hessid, hleads⟩, hrest⟩ := h
    rw [Option.mem_def] at hessid
    rw [searchCells, hessid]
    by_cases heq : essid = ssid
    · obtain ⟨q, hquality, hne, hpercentage⟩ := hleads heq
      rw [Option.mem_def] at hquality
      simp [heq, hquality, hne, hpercentage]
    · obtain ⟨cellinfo', hmem, hessid'⟩ := hfound
      have hmem' : cellinfo' ∈ cells := by
        refine (List.mem_cons.mp hmem).resolve_left ?_
        rintro rfl
        exact heq (Option.some.inj (hessid.symm.trans hessid'))
      have hsearch := ih hrest ⟨cellinfo', hmem', hessid'⟩
      simp [heq, hsearch]

/-- The entry of a cell leads to the quality exactly if the cell has an SSID, and has the quality
if that SSID is read as the text. -/
lemma Cell.ReadInto.leads_iff {entry : Text × CellData} (h : cell.ReadInto entry) {q : Rat} :
    Leads ssid (q * 100) entry.2 ↔ ∃ essid ∈ cell.essid, ReadAs essid ssid →
      ∃ a b, cell.quality = some (a, b) ∧ b ≠ 0 ∧ (a / b : Rat) = q := by
  have hpercentage (a b : ℕ) : percentage (qualityText (a, b)) = some (q * 100) ↔
      b ≠ 0 ∧ (a / b : Rat) = q := by
    rw [percentage_qualityText]
    split_ifs with hb
    · exact ⟨fun h => h.elim, fun h => absurd hb h.1⟩
    · rw [Option.some.injEq, mul_left_inj' (by decide)]
      exact ⟨fun h => ⟨hb, h⟩, fun h => h.2⟩
  constructor
  · rintro ⟨essid, hessid, hleads⟩
    rw [h.essid, Option.mem_map] at hessid
    obtain ⟨text, htext, rfl⟩ := hessid
    refine ⟨text, htext, fun hread => ?_⟩
    obtain ⟨q', hq', -, hq⟩ := hleads (seen_eq_iff.mpr hread)
    rw [h.quality, Option.mem_map] at hq'
    obtain ⟨⟨a, b⟩, hab, rfl⟩ := hq'
    exact ⟨a, b, hab, (hpercentage a b).mp hq⟩
  · rintro ⟨text, htext, hleads⟩
    refine ⟨seen text, ?_, fun heq => ?_⟩
    · rw [h.essid]
      exact Option.mem_map_of_mem seen htext
    · obtain ⟨a, b, hab, hq⟩ := hleads (seen_eq_iff.mp heq)
      refine ⟨qualityText (a, b), ?_, ?_, (hpercentage a b).mpr hq⟩
      · rw [h.quality]
        exact Option.mem_map_of_mem qualityText hab
      · exact List.append_ne_nil_of_right_ne_nil _ (List.cons_ne_nil _ _)

lemma Cell.ReadInto.quality_ne {entry : Text × CellData} (h : cell.ReadInto entry) :
    entry.2.quality ≠ some [] := by
  rw [h.quality]
  intro hempty
  obtain ⟨q, -, hq⟩ := Option.map_eq_some_iff.mp hempty
  exact List.append_ne_nil_of_right_ne_nil _ (List.cons_ne_nil _ _) hq

lemma getSignal_eq_some_iff {scan : Scan} {rawdata : Text} (hraw : scan.rawdata = some rawdata)
    (ssid : String) : getSignal scan ssid = some r ↔ Text.strip rawdata ≠ [] ∧
      ∃ data, parseRawData rawdata = some data ∧
        searchCells ssid.toList ((scan.visit data).map (·.2)) = some (some r) := by
  rw [getSignal, Option.join_eq_some_iff, getData, hraw, Option.bind_eq_bind, Option.bind_some]
  by_cases hblank : Text.strip rawdata = []
  · rw [if_pos hblank, Option.bind_none]
    exact ⟨fun h => absurd h.symm (Option.some_ne_none _), fun h => absurd hblank h.1⟩
  · rw [if_neg hblank]
    cases parseRawData rawdata with
    | none => simp
    | some data => simp [hblank]

lemma strip_text_ne_nil {printout : Printout} (h : cell ∈ printout.cells) :
    Text.strip printout.text ≠ [] := by
  have hheading : cell.heading ∈ printout.lines := by
    refine List.mem_append_left _ (List.mem_append_right _ ?_)
    exact List.mem_flatMap.mpr ⟨cell, h, List.mem_cons_self⟩
  have hmem : 'C' ∈ cell.heading := List.mem_append_right _ List.mem_cons_self
  have htext : 'C' ∈ printout.text :=
    List.mem_flatMap.mpr ⟨cell.heading, hheading, List.mem_append_left _ hmem⟩
  exact Text.strip_ne_nil htext rfl

/-- The dictionary of a scan may be visited in any order. -/
lemma exists_scan (rawdata : Text) {data entries : List (Text × CellData)}
    (h : entries.Perm data) :
    ∃ scan : Scan, scan.rawdata = some rawdata ∧ scan.visit data = entries := by
  classical
  have hperm (data' : List (Text × CellData)) :
      (if data' = data then entries else data').Perm data' := by
    split_ifs with heq
    · rw [heq]
      exact h
    · exact .refl _
  exact ⟨⟨some rawdata, _, hperm⟩, rfl, if_pos rfl⟩

/-- A search that has the quality in every order finds it. -/
lemma Holds.finds {printout : Printout} {data : List (Text × CellData)} {ssid : String} {q : Rat}
    (hholds : Holds printout.cells data) (hparses : ∀ cell ∈ printout.cells, cell.Parses)
    (hsearch : ∀ entries : List (Text × CellData), entries.Perm data →
      searchCells ssid.toList (entries.map (·.2)) = some (some (q * 100))) :
    printout.Finds ssid.toList q := by
  -- an order in which the entry comes first
  have hleads : ∀ entry ∈ data, Leads ssid.toList (q * 100) entry.2 := by
    intro entry hentry
    obtain ⟨cell, -, hread⟩ := hholds.of_entry entry hentry
    obtain ⟨before, after, rfl⟩ := List.append_of_mem hentry
    exact leads_of_searchCells hread.quality_ne (hsearch _ List.perm_middle.symm)
  have hcells : ∀ cell ∈ printout.cells, ∃ essid ∈ cell.essid, ReadAs essid ssid.toList →
      ∃ a b, cell.quality = some (a, b) ∧ b ≠ 0 ∧ (a / b : Rat) = q := by
    intro cell hcell
    obtain ⟨entry, hentry, hread⟩ := hholds.of_cell cell hcell
    exact hread.leads_iff.mp (hleads entry hentry)
  refine ⟨hparses, ?_, ?_, ?_⟩
  · intro cell hcell hnone
    obtain ⟨essid, hessid, -⟩ := hcells cell hcell
    rw [hnone] at hessid
    cases hessid
  · obtain ⟨cellinfo, hfound, -⟩ := searchCells_eq_some (hsearch data (.refl data))
    obtain ⟨entry, hentry, rfl⟩ := List.mem_map.mp (List.mem_of_find?_eq_some hfound)
    obtain ⟨cell, hcell, hread⟩ := hholds.of_entry entry hentry
    have hcarries := List.find?_some hfound
    simp only [Carries, decide_eq_true_eq] at hcarries
    obtain ⟨essid, hessid, hseen⟩ := Option.map_eq_some_iff.mp (hread.essid.symm.trans hcarries.1)
    exact ⟨cell, hcell, essid, hessid, seen_eq_iff.mp hseen⟩
  · intro cell hcell essid hessid hread
    obtain ⟨essid', hessid', hquality⟩ := hcells cell hcell
    obtain rfl := Option.mem_unique hessid hessid'
    exact hquality hread

/-- What is found has the quality in every order. -/
lemma Holds.search_eq {printout : Printout} {data entries : List (Text × CellData)}
    {ssid : Text} {q : Rat} (hholds : Holds printout.cells data) (h : printout.Finds ssid q)
    (hperm : entries.Perm data) :
    searchCells ssid (entries.map (·.2)) = some (some (q * 100)) := by
  refine searchCells_of_leads ?_ ?_
  · rw [List.forall_mem_map]
    intro entry hentry
    obtain ⟨cell, hcell, hread⟩ := hholds.of_entry entry (hperm.mem_iff.mp hentry)
    obtain ⟨essid, hessid⟩ := Option.ne_none_iff_exists'.mp (h.named cell hcell)
    exact hread.leads_iff.mpr ⟨essid, hessid, h.quality cell hcell essid hessid⟩
  · obtain ⟨cell, hcell, essid, hessid, hread⟩ := h.found
    obtain ⟨entry, hentry, hinto⟩ := hholds.of_cell cell hcell
    refine ⟨entry.2, List.mem_map_of_mem (hperm.mem_iff.mpr hentry), ?_⟩
    rw [hinto.essid, hessid, Option.map_some, seen_eq_iff.mpr hread]

/-- The signal of a network is the same whatever the order in which the cells are visited. -/
theorem signal_iff (printout : Printout) (ssid : String) (a b : ℕ) :
    (∀ scan : Scan, scan.rawdata = some printout.text →
      getSignal scan ssid = some (100 * a / b : Rat)) ↔ printout.Finds ssid.toList (a / b) := by
  have hr : (100 * a / b : Rat) = a / b * 100 := by rw [mul_div_assoc, mul_comm]
  rw [hr]
  constructor
  · intro h
    have hparses : ∀ cell ∈ printout.cells, cell.Parses := by
      obtain ⟨scan, hraw, -⟩ := exists_scan printout.text (.refl [])
      obtain ⟨-, data, hdata, -⟩ := (getSignal_eq_some_iff hraw ssid).mp (h scan hraw)
      exact parses_of_parseRawData (Option.isSome_iff_exists.mpr ⟨data, hdata⟩)
    obtain ⟨data, hdata, hholds⟩ := parseRawData_of_parses hparses
    refine hholds.finds hparses fun entries hperm => ?_
    obtain ⟨scan, hraw, hvisit⟩ := exists_scan printout.text hperm
    obtain ⟨-, data', hdata', hfound⟩ := (getSignal_eq_some_iff hraw ssid).mp (h scan hraw)
    obtain rfl := Option.some.inj (hdata.symm.trans hdata')
    rwa [hvisit] at hfound
  · intro h scan hraw
    obtain ⟨data, hdata, hholds⟩ := parseRawData_of_parses h.parses
    obtain ⟨cell, hcell, -⟩ := h.found
    rw [getSignal_eq_some_iff hraw]
    exact ⟨strip_text_ne_nil hcell, data, hdata, hholds.search_eq h (scan.visit_perm data)⟩

/-! ### A network beside a hidden one -/

/-- A cell with a line of each kind, all of which can be read; it need not have extras. -/
structure Cell.Complete (cell : Cell) : Prop where
  parses : cell.Parses
  kinds : ∀ key ∈ ["ESSID:\"", "Protocol:", "Mode:", "Frequency:", "Quality", "Encryption key:",
    "Bit Rates:"], ∃ attr ∈ cell.attributes, Text.startsWith attr.text key.toList = true

/-- Exactly one cell has the SSID, and it is complete and of the quality `a/b`. -/
def Printout.Carries (printout : Printout) (ssid : Text) (a b : ℕ) : Prop :=
  ∃ cell ∈ printout.cells, cell.Complete ∧ cell.essid = some ssid ∧ cell.quality = some (a, b) ∧
    0 < b ∧ ∀ other ∈ printout.cells, other.essid = some ssid → other = cell

/-- The network is found if every cell can be read and has an SSID without `:"`. -/
theorem Printout.Carries.finds {printout : Printout} {a b : ℕ} (h : printout.Carries ssid a b)
    (hparses : ∀ cell ∈ printout.cells, cell.Parses)
    (hnamed : ∀ cell ∈ printout.cells, ∃ essid ∈ cell.essid,
      ¬ ":\"".toList <:+: essid ++ ['"']) : printout.Finds ssid (a / b) := by
  obtain ⟨cell, hcell, -, hessid, hquality, hb, hunique⟩ := h
  refine ⟨hparses, ?_, ?_, ?_⟩
  · intro cell' hcell' hnone
    obtain ⟨essid, hessid', -⟩ := hnamed cell' hcell'
    rw [hnone] at hessid'
    cases hessid'
  · obtain ⟨essid, hessid', hplain⟩ := hnamed cell hcell
    obtain rfl := Option.mem_unique hessid hessid'
    exact ⟨cell, hcell, ssid, hessid, .whole hplain⟩
  · intro cell' hcell' essid hessid' hread
    obtain ⟨essid', hessid'', hplain⟩ := hnamed cell' hcell'
    obtain rfl := Option.mem_unique hessid' hessid''
    cases hread with
    | whole => exact ⟨a, b, hunique cell' hcell' hessid' ▸ hquality, hb.ne', rfl⟩
    | cut p rest hsplit => exact absurd ⟨p, rest, hsplit.symm⟩ hplain

instance (lines : List Text) : (attr : Attribute) → Decidable (attr.Parses lines)
  | .frequency _ _ channel => inferInstanceAs (Decidable (channel ≠ none))
  | .quality _ _ levels => inferInstanceAs (Decidable ("Signal level".toList <:+: levels.1))
  | .bitRates text =>
    inferInstanceAs (Decidable (lines.idxOf (Attribute.bitRates text).line + 2 < lines.length))
  | .essid _ | .protocol _ | .mode _ | .encryption _ | .extra _ | .other _ => .isTrue trivial

instance (cell : Cell) : Decidable cell.Parses := decidable_of_iff _ Cell.parses_iff.symm

def ownCell : Cell where
  number := ⟨"01".toList, by decide⟩
  mac := ⟨"00:01".toList, by decide⟩
  attributes := [.essid ⟨"SmartWiFiPdP".toList, by decide⟩,
    .protocol ⟨"IEEE 802.11".toList, by decide⟩, .mode ⟨"Master".toList, by decide⟩,
    .frequency ⟨"2.462".toList, by decide⟩ ⟨"GHz".toList, by decide⟩
      (some ⟨"11".toList, by decide⟩),
    .encryption ⟨"on".toList, by decide⟩, .bitRates ⟨"1 Mb/s".toList, by decide⟩,
    .other ⟨⟨"9 Mb/s".toList, by decide⟩, by decide⟩,
    .other ⟨⟨"54 Mb/s".toList, by decide⟩, by decide⟩,
    .quality 74 100 ⟨"Signal level=-77 dBm".toList, by decide⟩]

/-- A cell that does not tell its SSID. -/
def hiddenCell : Cell where
  number := ⟨"02".toList, by decide⟩
  mac := ⟨"00:02".toList, by decide⟩
  attributes := [.quality 60 100 ⟨"Signal level=-80 dBm".toList, by decide⟩]

def hiddenScan : Printout where
  title := []
  cells := [ownCell, hiddenCell]
  distinct := by decide

/-- The network has no signal when the hidden one is visited before it. -/
theorem signal_lost : hiddenScan.Carries "SmartWiFiPdP".toList 74 100 ∧
    ¬ ∀ scan : Scan, scan.rawdata = some hiddenScan.text →
      getSignal scan "SmartWiFiPdP" = some (100 * 74 / 100) := by
  constructor
  · refine ⟨ownCell, List.mem_cons_self, ?_, rfl, rfl, by decide, ?_⟩
    · exact ⟨by decide +kernel, by decide +kernel⟩
    · intro other hother hessid
      rcases List.mem_cons.mp hother with rfl | hother
      · rfl
      · rw [List.mem_singleton.mp hother] at hessid
        cases hessid
  · intro h
    have hnone : getSignal ⟨some hiddenScan.text, id, fun _ => .refl _⟩ "SmartWiFiPdP" = none := by
      decide +kernel
    rw [h _ rfl] at hnone
    cases hnone

end SecuredApp
