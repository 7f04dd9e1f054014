import SecuredApp.Config.Proposal

/-!
# Negotiating a proposal

The responder selects from the proposals of the initiator, and the initiator checks what was
selected against its own. Both end with the same algorithms.
-/

namespace SecuredApp

variable {isAead : ℕ → Bool}

/-! ### The algorithms of a proposal -/

lemma Proposal.algs_addAlgorithm (p : Proposal) (type type' : TransformType) (a : Algorithm) :
    (p.addAlgorithm type a).algs type' = p.algs type' ++ if type = type' then [a] else [] := by
  simp only [Proposal.algs, Proposal.addAlgorithm, List.filterMap_append]
  by_cases htype : type = type'
  · simp [algFilter, htype]
  · simp [algFilter, htype]

lemma mem_algs_iff {p : Proposal} {type : TransformType} {a : Algorithm} :
    a ∈ p.algs type ↔ ⟨type, a⟩ ∈ p.transforms := by
  simp only [Proposal.algs, List.mem_filterMap, algFilter]
  constructor
  · rintro ⟨⟨type', a'⟩, hentry, heq⟩
    split_ifs at heq with htype
    rw [not_not] at htype
    rw [Option.some.injEq] at heq
    exact heq ▸ htype ▸ hentry
  · intro hentry
    exact ⟨_, hentry, by simp⟩

/-- The types in the order in which they are selected. -/
def transformTypes : List TransformType :=
  [.encryptionAlgorithm, .pseudoRandomFunction, .integrityAlgorithm, .diffieHellmanGroup,
    .extendedSequenceNumbers]

lemma mem_transformTypes (type : TransformType) : type ∈ transformTypes := by
  cases type <;> decide

/-- One algorithm at most for each type. -/
def chosenTransforms (choice : TransformType → Option Algorithm) : List Transform :=
  transformTypes.filterMap fun type => (choice type).map (⟨type, ·⟩)

lemma mem_chosenTransforms {choice : TransformType → Option Algorithm} {type : TransformType}
    {a : Algorithm} : ⟨type, a⟩ ∈ chosenTransforms choice ↔ choice type = some a := by
  simp only [chosenTransforms, List.mem_filterMap, Option.map_eq_some_iff, Transform.mk.injEq]
  constructor
  · rintro ⟨type', -, a', ha', rfl, rfl⟩
    exact ha'
  · intro ha
    exact ⟨type, mem_transformTypes type, a, ha, rfl, rfl⟩

lemma algs_chosen (choice : TransformType → Option Algorithm) (protocol : ProtocolId)
    (spi number : ℕ) (type : TransformType) :
    Proposal.algs ⟨protocol, chosenTransforms choice, spi, number⟩ type = (choice type).toList := by
  have hone : ∀ type', ((choice type').map (⟨type', ·⟩ : Algorithm → Transform)).bind
      (algFilter type) = if type' = type then choice type' else none := by
    intro type'
    cases choice type' with
    | none => simp
    | some a => by_cases htype : type' = type <;> simp [algFilter, htype]
  rw [Proposal.algs, chosenTransforms, List.filterMap_filterMap]
  simp only [hone]
  cases htype : choice type with
  | none => cases type <;> simp [transformTypes, htype]
  | some a => cases type <;> simp [transformTypes, htype]

/-! ### What is selected -/

lemma acceptable_iff {priv : Bool} {a : Algorithm} {supplied : List Algorithm} :
    acceptable priv a supplied = true ↔ a ∈ supplied ∧ (priv = true ∨ a.alg < privateUse) := by
  induction supplied with
  | nil => simp [acceptable]
  | cons b rest ih =>
    rw [acceptable]
    split_ifs with heq hpriv
    · simp only [Bool.and_eq_true, Bool.not_eq_true', decide_eq_true_eq] at hpriv
      rw [ih]
      simp [hpriv.1, Nat.not_lt.mpr hpriv.2]
    · simp only [Bool.and_eq_true, Bool.not_eq_true', decide_eq_true_eq, not_and, Nat.not_le]
        at hpriv
      simp only [heq, List.mem_cons_self, true_and, true_iff]
      cases hp : priv with
      | true => exact Or.inl rfl
      | false => exact Or.inr (heq ▸ hpriv hp)
    · rw [ih]
      simp [heq]

lemma firstAcceptable_eq_find? (priv : Bool) (supplied stored : List Algorithm) :
    firstAcceptable priv supplied stored = stored.find? (acceptable priv · supplied) := by
  induction stored with
  | nil => rfl
  | cons a rest ih =>
    rw [firstAcceptable, List.find?_cons]
    cases hacceptable : acceptable priv a supplied with
    | true => simp
    | false => simpa using ih

/-- Whether nothing needs to be selected of the type. -/
def Proposal.Dispensable (this other : Proposal) (type : TransformType) : Prop :=
  this.algs type = [] ∧ (other.algs type = [] ∨
    (type = .diffieHellmanGroup ∧ (this.protocol = .esp ∨ this.protocol = .ah)) ∧
      ∃ a ∈ other.algs type, a.alg = modpNone)

/-- What may be selected of a type, if an AEAD is selected or not. -/
def Proposal.Chooses (this other : Proposal) (priv aead : Bool) (type : TransformType) :
    Option Algorithm → Prop
  | none => (type = .integrityAlgorithm ∧ aead = true) ∨ this.Dispensable other type
  | some a => ¬ (type = .integrityAlgorithm ∧ aead = true) ∧
      (this.algs type).find? (acceptable priv · (other.algs type)) = some a

/-- `selected` with what was chosen of the type. -/
def Proposal.addChosen (p : Proposal) (type : TransformType) : Option Algorithm → Proposal
  | none => p
  | some a => p.addAlgorithm type a

lemma Proposal.selectAlgo_eq_some_iff {this other selected selected' : Proposal}
    {type : TransformType} {priv : Bool} :
    this.selectAlgo isAead other selected type priv = some selected' ↔
      ∃ o, this.Chooses other priv
        ((selected.getAlgorithm .encryptionAlgorithm).any (isAead ·.alg)) type o ∧
        selected' = selected.addChosen type o := by
  simp only [Proposal.selectAlgo, firstAcceptable_eq_find?]
  set aead := (selected.getAlgorithm .encryptionAlgorithm).any (isAead ·.alg)
  have hdispensable : (this.algs type = [] ∧ (other.algs type = [] ∨
      (type = .diffieHellmanGroup ∧ (this.protocol = .esp ∨ this.protocol = .ah)) ∧
        (other.algs type).any (·.alg = modpNone) = true)) ↔ this.Dispensable other type := by
    simp [Proposal.Dispensable]
  split_ifs with haead hnone
  · constructor
    · rintro h
      exact ⟨none, Or.inl haead, (Option.some.inj h).symm⟩
    · rintro ⟨o, ho, rfl⟩
      cases o with
      | none => rfl
      | some a => exact absurd haead ho.1
  · have hempty : this.algs type = [] := hnone.1
    constructor
    · intro h
      exact ⟨none, Or.inr (hdispensable.mp hnone), (Option.some.inj h).symm⟩
    · rintro ⟨o, ho, rfl⟩
      cases o with
      | none => rfl
      | some a =>
        have hfind := ho.2
        rw [hempty] at hfind
        cases hfind
  · constructor
    · intro h
      obtain ⟨a, ha, rfl⟩ := Option.map_eq_some_iff.mp h
      exact ⟨some a, ⟨haead, ha⟩, rfl⟩
    · rintro ⟨o, ho, rfl⟩
      cases o with
      | none =>
        rcases ho with ho | ho
        · exact absurd ho haead
        · exact absurd (hdispensable.mpr ho) hnone
      | some a => rw [ho.2]; rfl

lemma Proposal.algs_addChosen (p : Proposal) (type type' : TransformType) (o : Option Algorithm) :
    (p.addChosen type o).algs type' = p.algs type' ++ if type = type' then o.toList else [] := by
  cases o with
  | none => simp [Proposal.addChosen]
  | some a => exact p.algs_addAlgorithm type type' a

/-- An AEAD only matters for the integrity algorithm. -/
lemma Proposal.Chooses.congr {this other : Proposal} {priv aead aead' : Bool} {type : TransformType}
    {o : Option Algorithm} (h : this.Chooses other priv aead type o)
    (htype : type = .integrityAlgorithm → aead = aead') : this.Chooses other priv aead' type o := by
  by_cases hinteg : type = .integrityAlgorithm
  · exact htype hinteg ▸ h
  · cases o with
    | none => exact h.imp_left fun h => absurd h.1 hinteg
    | some a => exact ⟨fun h => hinteg h.1, h.2⟩

/-- What was chosen of each type. -/
def choiceOf (encryption prf integrity dh esn : Option Algorithm) : TransformType → Option Algorithm
  | .encryptionAlgorithm => encryption
  | .pseudoRandomFunction => prf
  | .integrityAlgorithm => integrity
  | .diffieHellmanGroup => dh
  | .extendedSequenceNumbers => esn

/-- The five types selected one after the other. -/
lemma Proposal.addChosen_eq (protocol : ProtocolId) (number spi : ℕ)
    (choice : TransformType → Option Algorithm) :
    { ((((Proposal.create protocol number).addChosen .encryptionAlgorithm
        (choice .encryptionAlgorithm)).addChosen .pseudoRandomFunction
        (choice .pseudoRandomFunction)).addChosen .integrityAlgorithm
        (choice .integrityAlgorithm)).addChosen .diffieHellmanGroup
        (choice .diffieHellmanGroup) |>.addChosen .extendedSequenceNumbers
        (choice .extendedSequenceNumbers) with spi := spi }
      = ⟨protocol, chosenTransforms choice, spi, number⟩ := by
  simp only [chosenTransforms, transformTypes, List.filterMap_cons, List.filterMap_nil]
  cases choice .encryptionAlgorithm <;> cases choice .pseudoRandomFunction <;>
    cases choice .integrityAlgorithm <;> cases choice .diffieHellmanGroup <;>
    cases choice .extendedSequenceNumbers <;> rfl

/-- What `select_proposal` gives: of every type what may be chosen, and the number and the SPI of
the other side. -/
lemma Proposal.select_eq_some_iff {this other selected : Proposal} {priv : Bool} :
    this.select isAead other priv = some selected ↔
      this.protocol = other.protocol ∧ ∃ choice : TransformType → Option Algorithm,
        (∀ type, this.Chooses other priv ((choice .encryptionAlgorithm).any (isAead ·.alg)) type
          (choice type)) ∧
        selected = ⟨this.protocol, chosenTransforms choice, other.spi, other.number⟩ := by
  have haead : ∀ (p : Proposal) (e f : Option Algorithm), p.transforms = [] →
      (((p.addChosen .encryptionAlgorithm e).addChosen .pseudoRandomFunction f).getAlgorithm
        .encryptionAlgorithm).any (isAead ·.alg) = e.any (isAead ·.alg) := by
    intro p e f hp
    have hnil : p.algs .encryptionAlgorithm = [] := by rw [Proposal.algs, hp]; rfl
    rw [Proposal.getAlgorithm, Proposal.algs_addChosen, Proposal.algs_addChosen, hnil]
    cases e <;> simp
  rw [Proposal.select]
  by_cases hprotocol : this.protocol = other.protocol
  · simp only [hprotocol, ne_eq, not_true_eq_false, if_false, true_and, Option.bind_eq_bind,
      Option.bind_eq_some_iff, Proposal.selectAlgo_eq_some_iff, Option.pure_def, Option.some.injEq]
    constructor
    · rintro ⟨-, ⟨e, he, rfl⟩, -, ⟨f, hf, rfl⟩, -, ⟨i, hi, rfl⟩, -, ⟨d, hd, rfl⟩, -, ⟨x, hx, rfl⟩,
        rfl⟩
      refine ⟨choiceOf e f i d x, ?_, Proposal.addChosen_eq _ _ _ (choiceOf e f i d x)⟩
      rw [haead _ e f rfl] at hi
      intro type
      cases type with
      | encryptionAlgorithm => exact he.congr (by simp)
      | pseudoRandomFunction => exact hf.congr (by simp)
      | integrityAlgorithm => exact hi
      | diffieHellmanGroup => exact hd.congr (by simp)
      | extendedSequenceNumbers => exact hx.congr (by simp)
    · rintro ⟨choice, hchoice, rfl⟩
      refine ⟨_, ⟨choice .encryptionAlgorithm, (hchoice _).congr (by simp), rfl⟩,
        _, ⟨choice .pseudoRandomFunction, (hchoice _).congr (by simp), rfl⟩,
        _, ⟨choice .integrityAlgorithm, ?_, rfl⟩,
        _, ⟨choice .diffieHellmanGroup, (hchoice _).congr (by simp), rfl⟩,
        _, ⟨choice .extendedSequenceNumbers, (hchoice _).congr (by simp), rfl⟩,
        Proposal.addChosen_eq _ _ _ choice⟩
      rw [haead _ _ _ rfl]
      exact hchoice .integrityAlgorithm
  · simp [hprotocol]

/-! ### The initiator checks what the responder selected -/

/-- What was chosen, of what both sides have. -/
lemma Proposal.Chooses.mem {this other : Proposal} {priv aead : Bool} {type : TransformType}
    {a : Algorithm} (h : this.Chooses other priv aead type (some a)) :
    a ∈ this.algs type ∧ a ∈ other.algs type ∧ (priv = true ∨ a.alg < privateUse) := by
  have hacceptable : acceptable priv a (other.algs type) = true := by
    simpa using List.find?_some h.2
  exact ⟨List.mem_of_find?_eq_some h.2, acceptable_iff.mp hacceptable⟩

/-- Where the other side has one algorithm, it is chosen if it may be. -/
lemma Proposal.chooses_of_singleton {this other : Proposal} {priv aead : Bool}
    {type : TransformType} {a : Algorithm} (hinteg : ¬ (type = .integrityAlgorithm ∧ aead = true))
    (hmem : a ∈ this.algs type) (hother : other.algs type = [a])
    (hpriv : priv = true ∨ a.alg < privateUse) : this.Chooses other priv aead type (some a) := by
  refine ⟨hinteg, ?_⟩
  have hsome : ((this.algs type).find? (acceptable priv · (other.algs type))).isSome := by
    rw [List.find?_isSome]
    exact ⟨a, hmem, acceptable_iff.mpr ⟨by simp [hother], hpriv⟩⟩
  obtain ⟨b, hb⟩ := Option.isSome_iff_exists.mp hsome
  have hchoice : this.Chooses other priv aead type (some b) := ⟨hinteg, hb⟩
  have heq := hchoice.mem.2.1
  rw [hother, List.mem_singleton] at heq
  rw [hb, heq]

/-- A choice from what was chosen drops nothing but the group NONE. -/
lemma Proposal.Chooses.again {r p q : Proposal} {privR privI : Bool}
    {c c' : TransformType → Option Algorithm} {spi number : ℕ}
    (hc : ∀ type, r.Chooses p privR ((c .encryptionAlgorithm).any (isAead ·.alg)) type (c type))
    (hc' : ∀ type, q.Chooses ⟨r.protocol, chosenTransforms c, spi, number⟩ privI
      ((c' .encryptionAlgorithm).any (isAead ·.alg)) type (c' type)) (type : TransformType) :
    c' type = c type ∨ (q.protocol = .esp ∨ q.protocol = .ah) ∧ type = .diffieHellmanGroup ∧
      q.algs type = [] ∧ c' type = none ∧ ∃ a, c type = some a ∧ a.alg = modpNone := by
  have hsame : ∀ type a, c' type = some a → c type = some a := by
    intro type a ha
    have hchoice := hc' type
    rw [ha] at hchoice
    have hmem := hchoice.mem.2.1
    rw [algs_chosen, Option.mem_toList] at hmem
    exact hmem
  cases ha : c' type with
  | some a => exact Or.inl (hsame type a ha).symm
  | none =>
    have hchoice := hc' type
    rw [ha] at hchoice
    rcases hchoice with ⟨hinteg, haead⟩ | ⟨hempty, hnil | ⟨⟨hdh, hoptional⟩, a, hmem, hnone⟩⟩
    · -- the responder chose the same AEAD, and no integrity algorithm either
      left
      cases he : c' .encryptionAlgorithm with
      | none => simp [he] at haead
      | some e =>
        rw [he] at haead
        cases hi : c type with
        | none => rfl
        | some a =>
          have hchoice := hc type
          rw [hi, hsame _ e he] at hchoice
          exact absurd ⟨hinteg, haead⟩ hchoice.1
    · left
      rw [algs_chosen, Option.toList_eq_nil_iff] at hnil
      exact hnil.symm
    · rw [algs_chosen, Option.mem_toList] at hmem
      exact Or.inr ⟨hoptional, hdh, hempty, rfl, a, hmem, hnone⟩

/-- The transforms of a selection in use: the group NONE is none. -/
def Proposal.inUse (p : Proposal) : List Transform :=
  p.transforms.filter fun entry =>
    ¬ (entry.type = .diffieHellmanGroup ∧ entry.algorithm.alg = modpNone)

/-- What is selected is what the other side has. -/
lemma Proposal.transforms_select_subset {r p s : Proposal} {priv : Bool}
    (hs : r.select isAead p priv = some s) : s.transforms ⊆ p.transforms := by
  obtain ⟨-, c, hc, rfl⟩ := select_eq_some_iff.mp hs
  rintro ⟨type, a⟩ hentry
  have hchoice := hc type
  rw [mem_chosenTransforms.mp hentry] at hchoice
  exact mem_algs_iff.mp hchoice.mem.2.1

/-- A selection from a selection. -/
lemma Proposal.select_selected {r p q s s' : Proposal} {privR privI : Bool}
    (hs : r.select isAead p privR = some s) (hs' : q.select isAead s privI = some s') :
    s'.protocol = s.protocol ∧ s'.spi = s.spi ∧ s'.inUse = s.inUse ∧
      s'.transforms ⊆ s.transforms ∧
      (s'.protocol = .ike → s'.transforms = s.transforms) := by
  have hsubset := transforms_select_subset hs'
  obtain ⟨-, c, hc, rfl⟩ := select_eq_some_iff.mp hs
  obtain ⟨hprotocol, c', hc', rfl⟩ := select_eq_some_iff.mp hs'
  refine ⟨hprotocol, rfl, ?_, hsubset, fun hike => ?_⟩
  · simp only [Proposal.inUse, chosenTransforms, List.filter_filterMap]
    refine List.filterMap_congr fun type _ => ?_
    rcases Chooses.again hc hc' type with heq | ⟨-, htype, -, hnone, a, ha, halg⟩
    · rw [heq]
    · rw [hnone, ha, Option.map_none, Option.map_some, Option.filter_some]
      simp [htype, halg]
  · show chosenTransforms c' = chosenTransforms c
    refine List.filterMap_congr fun type _ => ?_
    rcases Chooses.again hc hc' type with heq | ⟨hoptional, -⟩
    · rw [heq]
    · rw [show q.protocol = .ike from hike] at hoptional
      simp at hoptional

/-- The proposal that the responder selected from takes the selection back exactly if the private
use algorithms are known to both sides and it offered no group, or the selection has one. -/
theorem Proposal.select_selected_isSome_iff {r p s : Proposal} {privR privI : Bool}
    (hs : r.select isAead p privR = some s) :
    (p.select isAead s privI).isSome ↔
      (privI = true ∨ ∀ entry ∈ s.transforms, entry.algorithm.alg < privateUse) ∧
        (p.algs .diffieHellmanGroup = [] ∨ s.algs .diffieHellmanGroup ≠ []) := by
  obtain ⟨hprotocol, c, hc, rfl⟩ := select_eq_some_iff.mp hs
  have hoffered : ∀ type a, c type = some a → a ∈ p.algs type := by
    intro type a ha
    have hchoice := hc type
    rw [ha] at hchoice
    exact hchoice.mem.2.1
  rw [Option.isSome_iff_exists]
  constructor
  · rintro ⟨s', hs'⟩
    obtain ⟨-, c', hc', rfl⟩ := select_eq_some_iff.mp hs'
    constructor
    · rw [or_iff_not_imp_left]
      rintro hpriv ⟨type, a⟩ hentry
      have ha := mem_chosenTransforms.mp hentry
      rcases Chooses.again hc hc' type with heq | ⟨-, -, hempty, -⟩
      · have hchoice := hc' type
        rw [heq, ha] at hchoice
        exact hchoice.mem.2.2.resolve_left hpriv
      · have hmem := hoffered type a ha
        rw [hempty] at hmem
        cases hmem
    · rw [or_iff_not_imp_left]
      intro hgroups hnil
      have hchoice := hc' .diffieHellmanGroup
      cases ha : c' .diffieHellmanGroup with
      | none =>
        rw [ha] at hchoice
        rcases hchoice with hinteg | hdispensable
        · cases hinteg.1
        · exact hgroups hdispensable.1
      | some a =>
        rw [ha] at hchoice
        have hmem := hchoice.mem.2.1
        rw [hnil] at hmem
        cases hmem
  · rintro ⟨hpriv, hgroups⟩
    refine ⟨_, select_eq_some_iff.mpr ⟨hprotocol.symm, c, fun type => ?_, rfl⟩⟩
    have hchoice := hc type
    cases ha : c type with
    | some a =>
      rw [ha] at hchoice
      refine chooses_of_singleton hchoice.1 (hoffered type a ha) (by rw [algs_chosen, ha]; rfl) ?_
      exact hpriv.imp_right fun hall => hall ⟨type, a⟩ (mem_chosenTransforms.mpr ha)
    | none =>
      rw [ha] at hchoice
      have hnil : Proposal.algs ⟨r.protocol, chosenTransforms c, p.spi, p.number⟩ type = [] := by
        rw [algs_chosen, ha]
        rfl
      rcases hchoice with hinteg | ⟨-, hempty | ⟨⟨rfl, -⟩, a, hmem, -⟩⟩
      · exact Or.inl hinteg
      · exact Or.inr ⟨hempty, Or.inl hnil⟩
      · rcases hgroups with hgroups | hgroups
        · rw [hgroups] at hmem
          cases hmem
        · exact absurd hnil hgroups

/-- A transform without a key size. -/
def plain (type : TransformType) (alg : ℕ) : Transform := ⟨type, ⟨alg, 0⟩⟩

/-- An ESP proposal with AES-CBC and HMAC-SHA1, and some groups. -/
def espProposal (groups : List ℕ) : Proposal where
  protocol := .esp
  transforms := [⟨.encryptionAlgorithm, ⟨12, 128⟩⟩, plain .integrityAlgorithm 2] ++
    groups.map (plain .diffieHellmanGroup) ++ [plain .extendedSequenceNumbers 0]
  spi := 7
  number := 1

/-- The initiator would do without a group, the responder has none, and the initiator refuses. -/
example : (espProposal []).select (· = 20) (espProposal [14, 0]) false = some (espProposal []) ∧
    ¬ ((espProposal [14, 0]).select (· = 20) (espProposal []) false).isSome := by
  decide

/-! ### The configurations -/

lemma Proposal.selectFrom_eq (stored : Proposal) (priv : Bool) (supplied : List Proposal) :
    stored.selectFrom isAead priv supplied
      = supplied.findSome? (stored.select isAead · priv) := by
  induction supplied with
  | nil => rfl
  | cons p rest ih =>
    rw [Proposal.selectFrom, List.findSome?_cons, ih]
    cases stored.select isAead p priv with
    | none => rfl
    | some s => rfl

lemma selectStored_eq (supplied : List Proposal) (priv : Bool) (stored : List Proposal) :
    selectStored isAead supplied priv stored
      = stored.findSome? fun p => supplied.findSome? (p.select isAead · priv) := by
  induction stored with
  | nil => rfl
  | cons p rest ih =>
    rw [selectStored, List.findSome?_cons, ih, Proposal.selectFrom_eq]
    cases supplied.findSome? (p.select isAead · priv) with
    | none => rfl
    | some s => rfl

/-- The stored proposals come first, then the supplied ones: the pair that is taken, and what is
selected from it. -/
lemma selectStored_eq_some_iff {supplied stored : List Proposal} {priv : Bool} {s : Proposal} :
    selectStored isAead supplied priv stored = some s ↔
      ∃ before p after before' q after', stored = before ++ p :: after ∧
        supplied = before' ++ q :: after' ∧ p.select isAead q priv = some s ∧
          (∀ p' ∈ before, ∀ q' ∈ supplied, p'.select isAead q' priv = none) ∧
            ∀ q' ∈ before', p.select isAead q' priv = none := by
  rw [selectStored_eq, List.findSome?_eq_some_iff]
  simp only [List.findSome?_eq_some_iff, List.findSome?_eq_none_iff]
  constructor
  · rintro ⟨before, p, after, hstored, ⟨before', q, after', hsupplied, hs, hbefore'⟩, hbefore⟩
    exact ⟨before, p, after, before', q, after', hstored, hsupplied, hs, hbefore, hbefore'⟩
  · rintro ⟨before, p, after, before', q, after', hstored, hsupplied, hs, hbefore, hbefore'⟩
    exact ⟨before, p, after, hstored, ⟨before', q, after', hsupplied, hs, hbefore'⟩, hbefore⟩

lemma exists_of_selectStored {supplied stored : List Proposal} {priv : Bool} {s : Proposal}
    (h : selectStored isAead supplied priv stored = some s) :
    ∃ p ∈ stored, ∃ q ∈ supplied, p.select isAead q priv = some s := by
  obtain ⟨before, p, after, before', q, after', rfl, rfl, hs, -⟩ := selectStored_eq_some_iff.mp h
  exact ⟨p, by simp, q, by simp, hs⟩

lemma selectStored_isSome {supplied stored : List Proposal} {priv : Bool} {p q : Proposal}
    (hp : p ∈ stored) (hq : q ∈ supplied) (h : (p.select isAead q priv).isSome) :
    (selectStored isAead supplied priv stored).isSome := by
  rw [selectStored_eq, List.findSome?_isSome_iff]
  exact ⟨p, hp, List.findSome?_isSome_iff.mpr ⟨q, hq, h⟩⟩

/-- A list of proposals that the responder selected from finds the selection again. -/
lemma selectStored_again {stored supplied own : List Proposal} {privR privI : Bool} {s : Proposal}
    (hs : selectStored isAead supplied privR stored = some s) (hown : supplied ⊆ own)
    (hpriv : privI = true ∨ ∀ entry ∈ s.transforms, entry.algorithm.alg < privateUse)
    (hgroups : ∀ p ∈ supplied, ∀ r ∈ stored, r.select isAead p privR = some s →
      p.algs .diffieHellmanGroup = [] ∨ s.algs .diffieHellmanGroup ≠ []) :
    ∃ s', selectStored isAead [s] privI own = some s' ∧ s'.protocol = s.protocol ∧
      s'.spi = s.spi ∧ s'.inUse = s.inUse ∧ s'.transforms ⊆ s.transforms ∧
      (s'.protocol = .ike → s'.transforms = s.transforms) := by
  obtain ⟨r, hr, p, hp, hselect⟩ := exists_of_selectStored hs
  have hsome := (Proposal.select_selected_isSome_iff hselect).mpr ⟨hpriv, hgroups p hp r hr hselect⟩
  obtain ⟨s', hs'⟩ := Option.isSome_iff_exists.mp
    (selectStored_isSome (hown hp) (List.mem_singleton_self s) hsome)
  obtain ⟨q, -, s₁, hs₁, hq⟩ := exists_of_selectStored hs'
  rw [List.mem_singleton] at hs₁
  subst hs₁
  exact ⟨s', hs', Proposal.select_selected hselect hq⟩

/-- A selection has a group if there was a choice, except that an ESP or AH proposal with the group
NONE goes with one that has no group. -/
lemma Proposal.groups_of_select {r p s : Proposal} {priv : Bool}
    (hs : r.select isAead p priv = some s)
    (hp : p.protocol = .ike ∨ ∀ a ∈ p.algs .diffieHellmanGroup, a.alg ≠ modpNone) :
    p.algs .diffieHellmanGroup = [] ∨ s.algs .diffieHellmanGroup ≠ [] := by
  obtain ⟨hprotocol, c, hc, rfl⟩ := select_eq_some_iff.mp hs
  have hchoice := hc .diffieHellmanGroup
  cases ha : c .diffieHellmanGroup with
  | some a =>
    right
    rw [algs_chosen, ha]
    exact List.cons_ne_nil a []
  | none =>
    left
    rw [ha] at hchoice
    rcases hchoice with hinteg | ⟨-, hempty | ⟨⟨-, hoptional⟩, a, hmem, hnone⟩⟩
    · cases hinteg.1
    · exact hempty
    · rcases hp with hike | hall
      · rw [hprotocol, hike] at hoptional
        simp at hoptional
      · exact absurd hnone (hall a hmem)

/-- The IKE proposal that a responder selects from those of the initiator is accepted by the
initiator, with the same algorithms, unless it has a private use algorithm that only the responder
takes for known. -/
theorem IkeCfg.ike_negotiation_agrees {initiator responder : IkeCfg} {privI privR : Bool}
    {s : Proposal}
    (hike : ∀ p ∈ initiator.proposals, p.protocol = .ike)
    (hs : responder.selectProposal isAead initiator.getProposals privR = some s)
    (hpriv : privI = true ∨ ∀ entry ∈ s.transforms, entry.algorithm.alg < privateUse) :
    ∃ s', initiator.selectProposal isAead [s] privI = some s' ∧ s'.protocol = s.protocol ∧
      s'.transforms = s.transforms := by
  obtain ⟨s', hs', hprotocol, -, -, -, hall⟩ := selectStored_again hs (List.Subset.refl _) hpriv
    fun p hp r _ hselect => Proposal.groups_of_select hselect (Or.inl (hike p hp))
  refine ⟨s', hs', hprotocol, hall ?_⟩
  obtain ⟨r, -, p, hp, hselect⟩ := exists_of_selectStored hs
  obtain ⟨heq, c, -, rfl⟩ := Proposal.select_eq_some_iff.mp hselect
  exact hprotocol.trans (heq.trans (hike p hp))

/-- An IKE proposal with two encryption algorithms and a group. -/
def ikeProposal (encryption : List ℕ) : Proposal where
  protocol := .ike
  transforms := encryption.map (⟨.encryptionAlgorithm, ⟨·, 128⟩⟩) ++
    [plain .pseudoRandomFunction 5, plain .integrityAlgorithm 12, plain .diffieHellmanGroup 14]
  spi := 0
  number := 1

/-- The responder prefers the AEAD, and needs no integrity algorithm. -/
theorem IkeCfg.ike_negotiation_agrees_aead :
    ∃ s s', (IkeCfg.mk [ikeProposal [20, 12]]).selectProposal (· = 20)
        (IkeCfg.mk [ikeProposal [12, 20]]).getProposals false = some s ∧
      (IkeCfg.mk [ikeProposal [12, 20]]).selectProposal (· = 20) [s] false = some s' ∧
        s'.protocol = s.protocol ∧ s'.transforms = s.transforms := by
  obtain ⟨s, hs, hpriv⟩ : ∃ s, (IkeCfg.mk [ikeProposal [20, 12]]).selectProposal (· = 20)
      (IkeCfg.mk [ikeProposal [12, 20]]).getProposals false = some s ∧
        (false = true ∨ ∀ entry ∈ s.transforms, entry.algorithm.alg < privateUse) :=
    ⟨_, rfl, by decide⟩
  obtain ⟨s', h⟩ := IkeCfg.ike_negotiation_agrees (by decide) hs hpriv
  exact ⟨s, s', hs, h⟩

/-- The proposals that are sent, each one only once, are those that are stored. -/
lemma ChildCfg.getProposals_subset (cfg : ChildCfg) (stripDh : Bool) :
    cfg.getProposals stripDh ⊆ cfg.proposals.map (·.stripped stripDh) := by
  have hfold : ∀ (stored proposals : List Proposal), stored.foldl (fun proposals stored =>
      let current := stored.stripped stripDh
      if proposals.any (·.equals current) then proposals else proposals ++ [current]) proposals
      ⊆ proposals ++ stored.map (·.stripped stripDh) := by
    intro stored
    induction stored with
    | nil => simp
    | cons p rest ih =>
      intro proposals
      rw [List.foldl_cons]
      refine List.Subset.trans (ih _) ?_
      rw [List.map_cons, List.append_cons]
      refine List.append_subset.mpr ⟨?_, List.subset_append_right _ _⟩
      simp only
      split_ifs
      · simp
      · simp
  simpa [ChildCfg.getProposals] using hfold cfg.proposals []

lemma Proposal.algs_stripped_subset (p : Proposal) (stripDh : Bool) (type : TransformType) :
    (p.stripped stripDh).algs type ⊆ p.algs type := by
  intro a ha
  rw [mem_algs_iff] at ha ⊢
  cases stripDh with
  | true => exact (List.mem_filter.mp ha).1
  | false => exact ha

/-- The ESP or AH proposal that a responder selects from those of the initiator is accepted by the
initiator, with the same algorithms, unless the initiator offers the group NONE, or there is a
private use algorithm that only the responder takes for known. -/
theorem ChildCfg.child_negotiation_agrees {initiator responder : ChildCfg}
    {stripDh privI privR : Bool} {s : Proposal}
    (hgroups : ∀ p ∈ initiator.proposals, ∀ a ∈ p.algs .diffieHellmanGroup, a.alg ≠ modpNone)
    (hs : responder.selectProposal isAead (initiator.getProposals stripDh) stripDh privR = some s)
    (hpriv : privI = true ∨ ∀ entry ∈ s.transforms, entry.algorithm.alg < privateUse) :
    ∃ s', initiator.selectProposal isAead [s] stripDh privI = some s' ∧
      s'.protocol = s.protocol ∧ s'.transforms = s.transforms := by
  have hgroups' : ∀ p ∈ initiator.getProposals stripDh,
      ∀ a ∈ p.algs .diffieHellmanGroup, a.alg ≠ modpNone := by
    intro p hp a ha
    obtain ⟨q, hq, rfl⟩ := List.mem_map.mp (initiator.getProposals_subset stripDh hp)
    exact hgroups q hq a (q.algs_stripped_subset stripDh _ ha)
  obtain ⟨s', hs', hprotocol, -, huse, hsubset, -⟩ :=
    selectStored_again hs (initiator.getProposals_subset stripDh) hpriv
      fun p hp r _ hselect => Proposal.groups_of_select hselect (Or.inr (hgroups' p hp))
  obtain ⟨r, -, p, hp, hselect⟩ := exists_of_selectStored hs
  have hnone : ∀ entry ∈ s.transforms,
      ¬ (entry.type = .diffieHellmanGroup ∧ entry.algorithm.alg = modpNone) := by
    rintro ⟨type, a⟩ hentry ⟨htype, hnone⟩
    simp only at htype
    subst htype
    exact hgroups' p hp a
      (mem_algs_iff.mpr (Proposal.transforms_select_subset hselect hentry)) hnone
  have hall : ∀ t : Proposal, t.transforms ⊆ s.transforms → t.inUse = t.transforms := by
    intro t ht
    refine List.filter_eq_self.mpr fun entry hentry => ?_
    exact decide_eq_true (hnone entry (ht hentry))
  refine ⟨s', hs', hprotocol, ?_⟩
  rw [← hall s' hsubset, huse, hall s (List.Subset.refl _)]

/-- In the exchange that makes the first CHILD_SA the groups are left out. -/
theorem ChildCfg.child_negotiation_agrees_stripped :
    ∃ s s', (ChildCfg.mk [espProposal []]).selectProposal (· = 20)
        ((ChildCfg.mk [espProposal [14], espProposal []]).getProposals true) true false = some s ∧
      (ChildCfg.mk [espProposal [14], espProposal []]).selectProposal (· = 20) [s] true false
        = some s' ∧ s'.protocol = s.protocol ∧ s'.transforms = s.transforms := by
  obtain ⟨s, hs, hpriv⟩ : ∃ s, (ChildCfg.mk [espProposal []]).selectProposal (· = 20)
      ((ChildCfg.mk [espProposal [14], espProposal []]).getProposals true) true false = some s ∧
        (false = true ∨ ∀ entry ∈ s.transforms, entry.algorithm.alg < privateUse) :=
    ⟨_, rfl, by decide⟩
  obtain ⟨s', h⟩ := ChildCfg.child_negotiation_agrees (by decide) hs hpriv
  exact ⟨s, s', hs, h⟩

/-! ### The group of the key exchange -/

lemma Proposal.hasDhGroup_iff {p : Proposal} {group : ℕ} :
    p.hasDhGroup group = true ↔ (∃ a ∈ p.algs .diffieHellmanGroup, a.alg = group) ∨
      p.algs .diffieHellmanGroup = [] ∧ group = modpNone := by
  simp [Proposal.hasDhGroup]

/-- A selection has no group that one of the sides does not have. -/
lemma Proposal.hasDhGroup_of_select {r p s : Proposal} {priv : Bool} {group : ℕ}
    (hs : r.select isAead p priv = some s) (h : s.hasDhGroup group = true) :
    r.hasDhGroup group = true ∧ p.hasDhGroup group = true := by
  obtain ⟨-, c, hc, rfl⟩ := select_eq_some_iff.mp hs
  have hchoice := hc .diffieHellmanGroup
  rw [hasDhGroup_iff, algs_chosen] at h
  rw [hasDhGroup_iff, hasDhGroup_iff]
  cases ha : c .diffieHellmanGroup with
  | some a =>
    rw [ha] at hchoice h
    obtain ⟨hr, hp, -⟩ := hchoice.mem
    have hgroup : a.alg = group := by simpa using h
    exact ⟨Or.inl ⟨a, hr, hgroup⟩, Or.inl ⟨a, hp, hgroup⟩⟩
  | none =>
    rw [ha] at hchoice h
    have hgroup : group = modpNone := by simpa using h
    rcases hchoice with hinteg | ⟨hr, hp | ⟨-, a, hp, hnone⟩⟩
    · cases hinteg.1
    · exact ⟨Or.inr ⟨hr, hgroup⟩, Or.inr ⟨hp, hgroup⟩⟩
    · exact ⟨Or.inr ⟨hr, hgroup⟩, Or.inl ⟨a, hp, hnone.trans hgroup.symm⟩⟩

/-- Some proposal has the first group, also where no proposal has any. -/
lemma exists_hasDhGroup_firstDhGroup {proposals : List Proposal} (h : proposals ≠ []) :
    ∃ p ∈ proposals, p.hasDhGroup (firstDhGroup proposals) = true := by
  rw [firstDhGroup]
  cases hfirst : proposals.findSome? (·.getAlgorithm .diffieHellmanGroup) with
  | some a =>
    obtain ⟨p, hp, ha⟩ := List.exists_of_findSome?_eq_some hfirst
    exact ⟨p, hp, Proposal.hasDhGroup_iff.mpr (Or.inl ⟨a, List.mem_of_head? ha, rfl⟩)⟩
  | none =>
    obtain ⟨p, hp⟩ := List.exists_mem_of_ne_nil proposals h
    have hnone := List.findSome?_eq_none_iff.mp hfirst p hp
    rw [Proposal.getAlgorithm, List.head?_eq_none_iff] at hnone
    exact ⟨p, hp, Proposal.hasDhGroup_iff.mpr (Or.inr ⟨hnone, rfl⟩)⟩

/-- The group that a key exchange is begun with is one of the proposals that are sent. -/
theorem IkeCfg.hasDhGroup_getDhGroup (this : IkeCfg) (h : this.proposals ≠ []) :
    ∃ p ∈ this.getProposals, p.hasDhGroup this.getDhGroup = true :=
  exists_hasDhGroup_firstDhGroup h

theorem ChildCfg.hasDhGroup_getDhGroup (this : ChildCfg) (h : this.proposals ≠ []) :
    ∃ p ∈ this.proposals, p.hasDhGroup this.getDhGroup = true :=
  exists_hasDhGroup_firstDhGroup h

/-- A group that the responder finds in its selection is configured on both sides. -/
theorem IkeCfg.hasDhGroup_of_selectProposal {initiator responder : IkeCfg} {priv : Bool}
    {s : Proposal} {group : ℕ}
    (hs : responder.selectProposal isAead initiator.getProposals priv = some s)
    (h : s.hasDhGroup group = true) :
    (∃ r ∈ responder.proposals, r.hasDhGroup group = true) ∧
      ∃ p ∈ initiator.proposals, p.hasDhGroup group = true := by
  obtain ⟨r, hr, p, hp, hselect⟩ := exists_of_selectStored hs
  obtain ⟨hrgroup, hpgroup⟩ := Proposal.hasDhGroup_of_select hselect h
  exact ⟨⟨r, hr, hrgroup⟩, p, hp, hpgroup⟩

theorem ChildCfg.hasDhGroup_of_selectProposal {initiator responder : ChildCfg}
    {stripDh priv : Bool} {s : Proposal} {group : ℕ}
    (hs : responder.selectProposal isAead (initiator.getProposals stripDh) stripDh priv = some s)
    (h : s.hasDhGroup group = true) :
    (∃ r ∈ responder.proposals, (r.stripped stripDh).hasDhGroup group = true) ∧
      ∃ p ∈ initiator.proposals, (p.stripped stripDh).hasDhGroup group = true := by
  obtain ⟨r', hr', p', hp', hselect⟩ := exists_of_selectStored hs
  obtain ⟨r, hr, rfl⟩ := List.mem_map.mp hr'
  obtain ⟨p, hp, rfl⟩ := List.mem_map.mp (initiator.getProposals_subset stripDh hp')
  obtain ⟨hrgroup, hpgroup⟩ := Proposal.hasDhGroup_of_select hselect h
  exact ⟨⟨r, hr, hrgroup⟩, p, hp, hpgroup⟩

end SecuredApp
