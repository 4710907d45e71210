/-
Module: RouteAtlas.Proofs.YamlRoundTrip
Purpose: Reading the written form of a document gives back the document.
Main exports: Yaml.Node.IsWritable, Yaml.Node.ReadsBack, Yaml.Node.IsWritable.readsBack,
  Yaml.read_print
-/
import RouteAtlas.Proofs.YamlScalars

namespace RouteAtlas.Yaml

variable {rest : List Char} {column floor fuel start : Nat} {fresh : Bool} {next : Cursor}
  {key : Scalar} {value item node : Node} {items : List Node} {entries : List (Scalar × Node)}

/-! ## Documents that can be written -/

/-- A document whose scalars can be written as they are, and whose keys as keys. -/
inductive Node.IsWritable : Node → Prop where
  | scalar {scalar : Scalar} (writable : scalar.IsWritable) : IsWritable (.scalar scalar)
  | sequence {items : List Node} (writable : ∀ item ∈ items, IsWritable item) :
      IsWritable (.sequence items)
  | mapping {entries : List (Scalar × Node)} (keys : ∀ entry ∈ entries, entry.1.IsKey)
      (writable : ∀ entry ∈ entries, IsWritable entry.2) : IsWritable (.mapping entries)

/-! ## Steps of the reader -/

/-- What stands behind a colon, and the next token. -/
def blockValue (fuel column : Nat) (colon : Cursor) : Except Fault (Node × Cursor) :=
  let (start, crossed) := (colon.advance false).skip false
  if start.atEnd then pure (Node.empty, start)
  else if crossed && start.column ≤ column then
    if start.column == column && start.atEntry then blockItems fuel column [] start
    else pure (Node.empty, start)
  else blockNode fuel (column + 1) start

/-- What stands behind a dash, and the next token. -/
def blockItem (fuel column : Nat) (dash : Cursor) : Except Fault (Node × Cursor) :=
  let start := ((dash.advance true).skip false).1
  if start.atEnd || start.column ≤ column then pure (Node.empty, start)
  else blockNode fuel (column + 1) start

/-- What follows an item: another one, or the end of the sequence. -/
def moreItems (fuel column : Nat) (items : List Node) (next : Cursor) :
    Except Fault (Node × Cursor) :=
  if !next.atEnd && next.column == column && next.fresh && next.atEntry then
    blockItems fuel column items next
  else .ok (.sequence items.reverse, next)

/-- What follows an entry: another one, or the end of the mapping. -/
def moreEntries (fuel column : Nat) (entries : List (Scalar × Node)) (next : Cursor) :
    Except Fault (Node × Cursor) :=
  if next.atEnd || next.column < column then .ok (.mapping entries.reverse, next)
  else if next.column > column || !next.fresh then throw .misplaced
  else do
    let (key, after) ← readScalar false (column + 1) next
    let colon := (after.skip false).1
    if colon.atColon false && next.spansKey colon then
      blockEntries fuel column entries key colon
    else throw .misplaced

theorem blockItems_succ {dash : Cursor} (read : blockItem fuel column dash = .ok (item, next))
    (before : List Node) :
    blockItems (fuel + 1) column before dash = moreItems fuel column (item :: before) next := by
  rw [blockItem] at read
  rw [blockItems]
  generalize ((dash.advance true).skip false).1 = start at read ⊢
  dsimp only at read ⊢
  split at read
  · next ended =>
      cases read
      rw [if_pos ended]
      rfl
  · next goesOn =>
      rw [if_neg goesOn, read]
      rfl

theorem blockEntries_succ {colon : Cursor} (read : blockValue fuel column colon = .ok (value, next))
    (before : List (Scalar × Node)) :
    blockEntries (fuel + 1) column before key colon =
      moreEntries fuel column ((key, value) :: before) next := by
  rw [blockValue] at read
  rw [blockEntries]
  generalize (colon.advance false).skip false = skipped at read ⊢
  obtain ⟨start, crossed⟩ := skipped
  dsimp only at read ⊢
  split at read
  · next ended =>
      cases read
      rw [if_pos ended]
      rfl
  · next goesOn =>
      rw [if_neg goesOn]
      split at read
      · next isBelow =>
          rw [if_pos isBelow]
          split at read
          · next isEntry =>
              rw [if_pos isEntry, read]
              rfl
          · next noEntry =>
              cases read
              rw [if_neg noEntry]
              rfl
      · next isInside =>
          rw [if_neg isInside, read]
          rfl

/-! ## Where a node ends -/

namespace Cursor

/-- Whether a place belongs neither to a node in a column nor to a sequence right there. -/
structure Leaves (column : Nat) (cursor : Cursor) : Prop where
  below : cursor.IsBelow (column + 1)
  noEntry : cursor.atEntry = true → cursor.column ≠ column

theorem IsBelow.mono {cursor : Cursor} (below : cursor.IsBelow column) (le : column ≤ floor) :
    cursor.IsBelow floor :=
  below.imp_right fun left => Nat.lt_of_lt_of_le left le

theorem not_atEntry_of_nil {cursor : Cursor} (isNil : cursor.rest = []) :
    cursor.atEntry = false := by
  rw [atEntry, isNil]

theorem IsBelow.leaves {cursor : Cursor} (below : cursor.IsBelow column) :
    cursor.Leaves column where
  below := below.mono (Nat.le_succ column)
  noEntry := by
    intro isEntry
    rcases below with isNil | left
    · rw [not_atEntry_of_nil isNil] at isEntry
      cases isEntry
    · exact Nat.ne_of_lt left

end Cursor

theorem moreItems_end (leaves : next.Leaves column)
    (items : List Node) :
    moreItems fuel column items next = .ok (.sequence items.reverse, next) := by
  have ended : (!next.atEnd && next.column == column && next.fresh && next.atEntry) = false := by
    cases isEntry : next.atEntry with
    | false => rw [Bool.and_false]
    | true =>
        have other := beq_eq_false_iff_ne.mpr (leaves.noEntry isEntry)
        rw [other, Bool.and_false, Bool.false_and, Bool.false_and]
  rw [moreItems, ended]
  rfl

theorem moreEntries_end (follows : IsNext rest next) (below : next.IsBelow column)
    (entries : List (Scalar × Node)) :
    moreEntries fuel column entries next = .ok (.mapping entries.reverse, next) := by
  have ended : (next.atEnd || next.column < column) = true := by
    rcases below with isNil | left
    · rw [follows.atEnd_iff.mpr isNil, Bool.true_or]
    · rw [decide_eq_true left, Bool.or_true]
  rw [moreEntries, if_pos ended]

/-! ## Where a node starts -/

theorem exists_itemText (column : Nat) (node : Node) :
    ∃ text, itemText column node = ' ' :: text := by
  cases node with
  | scalar scalar => exact ⟨_, by rw [itemText]⟩
  | sequence items =>
      cases items with
      | nil => exact ⟨_, by rw [itemText]⟩
      | cons item items => exact ⟨_, by rw [itemText]; rfl⟩
  | mapping entries =>
      cases entries with
      | nil => exact ⟨_, by rw [itemText]⟩
      | cons entry entries => exact ⟨_, by rw [itemText]; rfl⟩

theorem endsWord_valueText (column : Nat) (node : Node) (rest : List Char) :
    endsWord (valueText column node ++ rest) = true := by
  cases node with
  | scalar scalar => rw [valueText]; rfl
  | sequence items =>
      cases items with
      | nil => rw [valueText]; rfl
      | cons item items => rw [valueText]; rfl
  | mapping entries =>
      cases entries with
      | nil => rw [valueText]; rfl
      | cons entry entries => rw [valueText]; rfl

theorem itemsText_cons (column : Nat) (item : Node) (items : List Node) (rest : List Char) :
    itemsText column (item :: items) ++ rest =
      spaces column ++ '-' :: (itemText column item ++ (itemsText column items ++ rest)) := by
  rw [itemsText]
  simp

theorem entriesText_cons (column : Nat) (key : Scalar) (value : Node)
    (entries : List (Scalar × Node)) (rest : List Char) :
    entriesText column ((key, value) :: entries) ++ rest =
      spaces column ++ (keyText key ++
        ':' :: (valueText column value ++ (entriesText column entries ++ rest))) := by
  rw [entriesText]
  simp

/-- A dash is a token. -/
theorem isToken_dash (column : Nat) (node : Node) (rest : List Char) :
    IsToken ('-' :: (itemText column node ++ rest)) := by
  obtain ⟨text, written⟩ := exists_itemText column node
  rw [written]
  exact ⟨⟨'-', _, rfl, by decide, by decide, by decide⟩, rfl, nofun⟩

theorem atEntry_dash (column start : Nat) (fresh : Bool) (node : Node) (rest : List Char) :
    (⟨'-' :: (itemText column node ++ rest), start, fresh⟩ : Cursor).atEntry = true := by
  obtain ⟨text, written⟩ := exists_itemText column node
  rw [written]
  rfl

theorem skip_space (starts : IsToken rest) :
    (⟨' ' :: rest, start, fresh⟩ : Cursor).skip false = (⟨rest, start + 1, fresh⟩, false) :=
  (skipFrom_spaces false _ false fresh start 1 rest).trans (starts.skipFrom false _ false fresh _)

theorem blockItem_inline (starts : IsToken rest) :
    blockItem fuel column ⟨'-' :: ' ' :: rest, column, true⟩ =
      blockNode fuel (column + 1) ⟨rest, column + 1 + 1, true⟩ := by
  have skipped : ((⟨'-' :: ' ' :: rest, column, true⟩ : Cursor).advance true).skip false =
      (⟨rest, column + 1 + 1, true⟩, false) := skip_space starts
  have inside : ¬ column + 1 + 1 ≤ column := by omega
  rw [blockItem, skipped]
  simp [starts.not_atEnd, inside]

theorem blockValue_inline (starts : IsToken rest) :
    blockValue fuel column ⟨':' :: ' ' :: rest, start, fresh⟩ =
      blockNode fuel (column + 1) ⟨rest, start + 1 + 1, false⟩ := by
  have skipped : ((⟨':' :: ' ' :: rest, start, fresh⟩ : Cursor).advance false).skip false =
      (⟨rest, start + 1 + 1, false⟩, false) := skip_space starts
  rw [blockValue, skipped]
  simp [starts.not_atEnd]

theorem blockValue_deeper (starts : IsToken rest) :
    blockValue fuel column ⟨':' :: '\n' :: (spaces (column + 2) ++ rest), start, fresh⟩ =
      blockNode fuel (column + 1) ⟨rest, column + 2, true⟩ := by
  have skipped : ((⟨':' :: '\n' :: (spaces (column + 2) ++ rest), start, fresh⟩ : Cursor).advance
      false).skip false = (⟨rest, column + 2, true⟩, true) :=
    (IsNext.token (column + 2) starts).skip_line _ _
  have inside : ¬ column + 2 ≤ column := by omega
  rw [blockValue, skipped]
  simp [starts.not_atEnd, inside]

theorem blockValue_items (starts : IsToken rest)
    (isEntry : (⟨rest, column, true⟩ : Cursor).atEntry = true) :
    blockValue fuel column ⟨':' :: '\n' :: (spaces column ++ rest), start, fresh⟩ =
      blockItems fuel column [] ⟨rest, column, true⟩ := by
  have skipped : ((⟨':' :: '\n' :: (spaces column ++ rest), start, fresh⟩ : Cursor).advance
      false).skip false = (⟨rest, column, true⟩, true) :=
    (IsNext.token column starts).skip_line _ _
  rw [blockValue, skipped]
  simp [starts.not_atEnd, isEntry]

/-- A sequence starts at a dash. -/
theorem blockNode_dash (isEntry : (⟨rest, column, true⟩ : Cursor).atEntry = true) :
    blockNode (fuel + 1) floor ⟨rest, column, true⟩ =
      blockItems fuel column [] ⟨rest, column, true⟩ := by
  rw [blockNode, isEntry]
  rfl

/-- A mapping starts at a key. -/
theorem blockNode_key (fuel floor column : Nat) (isKey : key.IsKey) (ends : endsWord rest = true) :
    ∃ after, blockNode (fuel + 1) floor ⟨keyText key ++ ':' :: rest, column, true⟩ =
      blockEntries fuel column [] key ⟨':' :: rest, after, false⟩ := by
  obtain ⟨after, read, stays, isColon, spans⟩ := isKey.exists_colon floor column true ends
  refine ⟨after, ?_⟩
  rw [(isKey.opensScalar rest).blockNode_eq read (congrArg Prod.fst stays), isColon, spans]
  rfl

/-- Behind an entry another key goes on with the mapping. -/
theorem moreEntries_key (fuel column : Nat) (entries : List (Scalar × Node)) (isKey : key.IsKey)
    (ends : endsWord rest = true) :
    ∃ after, moreEntries fuel column entries ⟨keyText key ++ ':' :: rest, column, true⟩ =
      blockEntries fuel column entries key ⟨':' :: rest, after, false⟩ := by
  obtain ⟨after, read, stays, isColon, spans⟩ := isKey.exists_colon (column + 1) column true ends
  refine ⟨after, ?_⟩
  have goesOn := (isKey.opensScalar rest).token.not_atEnd column true
  rw [moreEntries, goesOn]
  simp [read, stays, isColon, spans, bind, Except.bind]

/-- Behind an item another dash goes on with the sequence. -/
theorem moreItems_dash (starts : IsToken rest)
    (isEntry : (⟨rest, column, true⟩ : Cursor).atEntry = true) :
    moreItems fuel column items ⟨rest, column, true⟩ =
      blockItems fuel column items ⟨rest, column, true⟩ := by
  rw [moreItems, starts.not_atEnd, isEntry]
  simp

theorem blockNode_emptySequence (follows : IsNext rest next) :
    blockNode (fuel + 3) floor ⟨'[' :: ']' :: '\n' :: rest, start, fresh⟩ =
      .ok (.sequence [], next) := by
  have opened : ((⟨'[' :: ']' :: '\n' :: rest, start, fresh⟩ : Cursor).advance true).skip true =
      (⟨']' :: '\n' :: rest, start + 1, true⟩, false) :=
    skipFrom_visible true true false true (start + 1) (by decide) (by decide) (by decide)
  have more : (⟨']' :: '\n' :: rest, start + 1, true⟩ : Cursor).atEnd = false := rfl
  have closed : ((⟨']' :: '\n' :: rest, start + 1, true⟩ : Cursor).advance false).skip false =
      (next, true) := follows.skip_line _ _
  have noEntry : (⟨'[' :: ']' :: '\n' :: rest, start, fresh⟩ : Cursor).atEntry = false := rfl
  rw [blockNode, noEntry]
  simp [flowNode, flowItems, opened, more, closed, bind, Except.bind, pure, Except.pure]

theorem blockNode_emptyMapping (follows : IsNext rest next) :
    blockNode (fuel + 3) floor ⟨'\x7b' :: '\x7d' :: '\n' :: rest, start, fresh⟩ =
      .ok (.mapping [], next) := by
  have opened : ((⟨'\x7b' :: '\x7d' :: '\n' :: rest, start, fresh⟩ : Cursor).advance true).skip
      true = (⟨'\x7d' :: '\n' :: rest, start + 1, true⟩, false) :=
    skipFrom_visible true true false true (start + 1) (by decide) (by decide) (by decide)
  have more : (⟨'\x7d' :: '\n' :: rest, start + 1, true⟩ : Cursor).atEnd = false := rfl
  have closed : ((⟨'\x7d' :: '\n' :: rest, start + 1, true⟩ : Cursor).advance false).skip false =
      (next, true) := follows.skip_line _ _
  have noEntry : (⟨'\x7b' :: '\x7d' :: '\n' :: rest, start, fresh⟩ : Cursor).atEntry = false := rfl
  rw [blockNode, noEntry]
  simp [flowNode, flowEntries, opened, more, closed, bind, Except.bind, pure, Except.pure]

/-! ## Reading back -/

/-- A node that is read back behind a colon and behind a dash.  The reader counts its steps down;
twice the length of a text is enough, since no character is looked at by more than two of them. -/
structure Node.ReadsBack (node : Node) : Prop where
  value : ∀ {fuel column : Nat} (start : Nat) (fresh : Bool) {rest : List Char} {next : Cursor},
    IsNext rest next → next.Leaves column → 2 * (valueText column node).length ≤ fuel →
    blockValue fuel column ⟨':' :: (valueText column node ++ rest), start, fresh⟩ = .ok (node, next)
  item : ∀ {fuel column : Nat} {rest : List Char} {next : Cursor},
    IsNext rest next → next.IsBelow (column + 1) → 2 * (itemText column node).length ≤ fuel →
    blockItem fuel column ⟨'-' :: (itemText column node ++ rest), column, true⟩ = .ok (node, next)

/-- A sequence is read back item by item. -/
theorem blockItems_readsBack (readsBack : ∀ node ∈ item :: items, node.ReadsBack)
    (follows : IsNext rest next) (leaves : next.Leaves column)
    (enough : 2 * (itemText column item ++ itemsText column items).length < fuel)
    (before : List Node) :
    blockItems fuel column before
        ⟨'-' :: (itemText column item ++ (itemsText column items ++ rest)), column, true⟩ =
      .ok (.sequence (before.reverse ++ item :: items), next) := by
  induction items generalizing item fuel before with
  | nil =>
      obtain ⟨fuel, rfl⟩ := Nat.exists_eq_add_one_of_ne_zero (Nat.ne_zero_of_lt enough)
      have room : 2 * (itemText column item).length ≤ fuel := by
        simp only [List.length_append] at enough
        omega
      have read := (readsBack item (by simp)).item follows leaves.below room
      rw [itemsText, List.nil_append, blockItems_succ read, moreItems_end leaves]
      simp
  | cons second items ih =>
      obtain ⟨fuel, rfl⟩ := Nat.exists_eq_add_one_of_ne_zero (Nat.ne_zero_of_lt enough)
      -- The next dash stands in the column of the sequence, so the item ends before it.
      have starts := isToken_dash column second (itemsText column items ++ rest)
      have isEntry := atEntry_dash column column true second (itemsText column items ++ rest)
      have first : IsNext (itemsText column (second :: items) ++ rest)
          ⟨'-' :: (itemText column second ++ (itemsText column items ++ rest)), column, true⟩ := by
        rw [itemsText_cons]
        exact .token column starts
      simp only [itemsText, List.length_append, List.length_cons] at enough
      have room : 2 * (itemText column item).length ≤ fuel := by omega
      have read := (readsBack item (by simp)).item first (.inr (Nat.lt_succ_self _)) room
      rw [blockItems_succ read, moreItems_dash starts isEntry,
        ih (fun node inside => readsBack node (List.mem_cons_of_mem item inside))
          (by simp only [List.length_append]; omega)]
      simp

/-- A mapping is read back entry by entry. -/
theorem blockEntries_readsBack (keys : ∀ entry ∈ entries, entry.1.IsKey)
    (readsBack : ∀ entry ∈ (key, value) :: entries, entry.2.ReadsBack)
    (follows : IsNext rest next) (below : next.IsBelow column)
    (enough : 2 * (valueText column value ++ entriesText column entries).length < fuel)
    (before : List (Scalar × Node)) (start : Nat) (fresh : Bool) :
    blockEntries fuel column before key
        ⟨':' :: (valueText column value ++ (entriesText column entries ++ rest)), start, fresh⟩ =
      .ok (.mapping (before.reverse ++ (key, value) :: entries), next) := by
  induction entries generalizing key value fuel before start fresh with
  | nil =>
      obtain ⟨fuel, rfl⟩ := Nat.exists_eq_add_one_of_ne_zero (Nat.ne_zero_of_lt enough)
      have room : 2 * (valueText column value).length ≤ fuel := by
        simp only [List.length_append] at enough
        omega
      have read := (readsBack (key, value) (by simp)).value start fresh follows below.leaves room
      rw [entriesText, List.nil_append, blockEntries_succ read, moreEntries_end follows below]
      simp
  | cons second entries ih =>
      obtain ⟨other, otherValue⟩ := second
      obtain ⟨fuel, rfl⟩ := Nat.exists_eq_add_one_of_ne_zero (Nat.ne_zero_of_lt enough)
      obtain ⟨isKey, otherKeys⟩ := List.forall_mem_cons.mp keys
      -- The next key stands in the column of the mapping, so the value ends before it.
      have opens := isKey.opensScalar
        (valueText column otherValue ++ (entriesText column entries ++ rest))
      have first : IsNext (entriesText column ((other, otherValue) :: entries) ++ rest)
          ⟨keyText other ++ ':' :: (valueText column otherValue ++
            (entriesText column entries ++ rest)), column, true⟩ := by
        rw [entriesText_cons]
        exact .token column opens.token
      have leaves : (⟨keyText other ++ ':' :: (valueText column otherValue ++
          (entriesText column entries ++ rest)), column, true⟩ : Cursor).Leaves column :=
        ⟨.inr (Nat.lt_succ_self _), fun isEntry => absurd isEntry (by simp [opens.not_atEntry])⟩
      simp only [entriesText, List.length_append, List.length_cons] at enough
      have room : 2 * (valueText column value).length ≤ fuel := by omega
      have read := (readsBack (key, value) (by simp)).value start fresh first leaves room
      obtain ⟨after, goesOn⟩ := moreEntries_key fuel column ((key, value) :: before) isKey
        (endsWord_valueText column otherValue (entriesText column entries ++ rest))
      rw [blockEntries_succ read, goesOn,
        ih otherKeys (fun entry inside => readsBack entry (List.mem_cons_of_mem _ inside))
          (by simp only [List.length_append]; omega)]
      simp

/-- A node that is written behind a space and read from there on. -/
theorem readsBack_of_inline {text : Nat → List Char}
    (value : ∀ column, valueText column node = ' ' :: text column)
    (item : ∀ column, itemText column node = ' ' :: text column)
    (starts : ∀ column rest, IsToken (text column ++ rest))
    (reads : ∀ {fuel column : Nat} (start : Nat) (fresh : Bool) {rest : List Char} {next : Cursor},
      IsNext rest next → next.IsBelow (column + 1) → 2 * (text column).length < fuel →
      blockNode fuel (column + 1) ⟨text column ++ rest, start, fresh⟩ = .ok (node, next)) :
    node.ReadsBack where
  value := by
    intro fuel column start fresh rest next follows leaves enough
    rw [value, List.length_cons] at enough
    rw [value, List.cons_append, blockValue_inline (starts column rest)]
    exact reads _ _ follows leaves.below (by omega)
  item := by
    intro fuel column rest next follows below enough
    rw [item, List.length_cons] at enough
    rw [item, List.cons_append, blockItem_inline (starts column rest)]
    exact reads _ _ follows below (by omega)

theorem readsBack_scalar {scalar : Scalar} (writable : scalar.IsWritable) :
    (Node.scalar scalar).ReadsBack := by
  refine readsBack_of_inline (fun column => by rw [valueText]) (fun column => by rw [itemText])
    (fun column rest => isToken_scalarLine _ writable rest) ?_
  intro fuel column start fresh rest next follows below enough
  obtain ⟨fuel, rfl⟩ := Nat.exists_eq_add_of_le' (show 1 ≤ fuel by omega)
  exact blockNode_scalarLine writable follows below

theorem readsBack_emptySequence : (Node.sequence []).ReadsBack := by
  have starts (rest : List Char) : IsToken ('[' :: ']' :: '\n' :: rest) := .of_mark (by decide) _
  refine readsBack_of_inline (fun column => by rw [valueText]) (fun column => by rw [itemText])
    (fun column rest => starts rest) ?_
  intro fuel column start fresh rest next follows below enough
  have room : 3 ≤ fuel := Nat.le_of_lt (Nat.lt_of_le_of_lt (by decide) enough)
  obtain ⟨fuel, rfl⟩ := Nat.exists_eq_add_of_le' room
  exact blockNode_emptySequence follows

theorem readsBack_emptyMapping : (Node.mapping []).ReadsBack := by
  have starts (rest : List Char) : IsToken ('\x7b' :: '\x7d' :: '\n' :: rest) :=
    .of_mark (by decide) _
  refine readsBack_of_inline (fun column => by rw [valueText]) (fun column => by rw [itemText])
    (fun column rest => starts rest) ?_
  intro fuel column start fresh rest next follows below enough
  have room : 3 ≤ fuel := Nat.le_of_lt (Nat.lt_of_le_of_lt (by decide) enough)
  obtain ⟨fuel, rfl⟩ := Nat.exists_eq_add_of_le' room
  exact blockNode_emptyMapping follows

theorem readsBack_sequence (readsBack : ∀ node ∈ item :: items, node.ReadsBack) :
    (Node.sequence (item :: items)).ReadsBack where
  value := by
    intro fuel column start fresh rest next follows leaves enough
    simp only [valueText, List.length_cons, List.length_append, List.cons_append] at enough
    have written : valueText column (.sequence (item :: items)) ++ rest = '\n' :: (spaces column ++
        '-' :: (itemText column item ++ (itemsText column items ++ rest))) := by
      rw [valueText]
      simp
    rw [written,
      blockValue_items (isToken_dash column item _) (atEntry_dash column column true item _),
      blockItems_readsBack readsBack follows leaves (by simp only [List.length_append]; omega)]
    rfl
  item := by
    intro fuel column rest next follows below enough
    simp only [itemText, List.length_cons, List.length_append, List.cons_append] at enough
    obtain ⟨fuel, rfl⟩ := Nat.exists_eq_add_of_le' (show 1 ≤ fuel by omega)
    have written : itemText column (.sequence (item :: items)) ++ rest =
        ' ' :: '-' :: (itemText (column + 2) item ++ (itemsText (column + 2) items ++ rest)) := by
      rw [itemText]
      simp
    have leaves : next.Leaves (column + 2) := (below.mono (Nat.le_succ _)).leaves
    rw [written, blockItem_inline (isToken_dash (column + 2) item _),
      blockNode_dash (atEntry_dash (column + 2) _ true item _),
      blockItems_readsBack readsBack follows leaves (by simp only [List.length_append]; omega)]
    rfl

/-- A mapping is read back from its first key on. -/
theorem blockNode_mapping (isKey : key.IsKey) (keys : ∀ entry ∈ entries, entry.1.IsKey)
    (readsBack : ∀ entry ∈ (key, value) :: entries, entry.2.ReadsBack)
    (follows : IsNext rest next) (below : next.IsBelow column)
    (enough : 2 * (valueText column value ++ entriesText column entries).length < fuel) :
    blockNode (fuel + 1) floor
        ⟨keyText key ++ ':' :: (valueText column value ++ (entriesText column entries ++ rest)),
          column, true⟩ =
      .ok (.mapping ((key, value) :: entries), next) := by
  obtain ⟨after, read⟩ := blockNode_key fuel floor column isKey
    (endsWord_valueText column value (entriesText column entries ++ rest))
  rw [read, blockEntries_readsBack keys readsBack follows below enough]
  rfl

theorem readsBack_mapping (isKey : key.IsKey) (keys : ∀ entry ∈ entries, entry.1.IsKey)
    (readsBack : ∀ entry ∈ (key, value) :: entries, entry.2.ReadsBack) :
    (Node.mapping ((key, value) :: entries)).ReadsBack where
  value := by
    intro fuel column start fresh rest next follows leaves enough
    simp only [valueText, List.length_cons, List.length_append, List.cons_append] at enough
    obtain ⟨fuel, rfl⟩ := Nat.exists_eq_add_of_le' (show 1 ≤ fuel by omega)
    have written : valueText column (.mapping ((key, value) :: entries)) ++ rest =
        '\n' :: (spaces (column + 2) ++ (keyText key ++ ':' :: (valueText (column + 2) value ++
          (entriesText (column + 2) entries ++ rest)))) := by
      rw [valueText]
      simp
    rw [written, blockValue_deeper (isKey.opensScalar _).token]
    exact blockNode_mapping isKey keys readsBack follows (leaves.below.mono (Nat.le_succ _))
      (by simp only [List.length_append]; omega)
  item := by
    intro fuel column rest next follows below enough
    simp only [itemText, List.length_cons, List.length_append, List.cons_append] at enough
    obtain ⟨fuel, rfl⟩ := Nat.exists_eq_add_of_le' (show 1 ≤ fuel by omega)
    have written : itemText column (.mapping ((key, value) :: entries)) ++ rest =
        ' ' :: (keyText key ++ ':' :: (valueText (column + 2) value ++
          (entriesText (column + 2) entries ++ rest))) := by
      rw [itemText]
      simp
    rw [written, blockItem_inline (isKey.opensScalar _).token]
    exact blockNode_mapping isKey keys readsBack follows (below.mono (Nat.le_succ _))
      (by simp only [List.length_append]; omega)

/-- What can be written is read back. -/
theorem Node.IsWritable.readsBack (writable : node.IsWritable) : node.ReadsBack := by
  induction writable with
  | scalar writable => exact readsBack_scalar writable
  | @sequence items writable ih =>
      cases items with
      | nil => exact readsBack_emptySequence
      | cons item items => exact readsBack_sequence ih
  | @mapping entries keys writable ih =>
      cases entries with
      | nil => exact readsBack_emptyMapping
      | cons entry entries =>
          obtain ⟨isKey, others⟩ := List.forall_mem_cons.mp keys
          exact readsBack_mapping isKey others ih

/-! ## Whole documents -/

/-- A node whose written form has printable characters only. -/
structure Node.IsPrinted (node : Node) : Prop where
  value : ∀ column, IsPrintable (valueText column node)
  item : ∀ column, IsPrintable (itemText column node)

theorem isPrintable_itemsText (printed : ∀ node ∈ items, node.IsPrinted) (column : Nat) :
    IsPrintable (itemsText column items) := by
  have dash : isPrintable '-' = true := by decide
  induction items with
  | nil => simp [itemsText]
  | cons item items ih =>
      obtain ⟨first, others⟩ := List.forall_mem_cons.mp printed
      simp [itemsText, dash, first.item, ih others]

theorem isPrintable_entriesText (keys : ∀ entry ∈ entries, entry.1.IsKey)
    (printed : ∀ entry ∈ entries, entry.2.IsPrinted) (column : Nat) :
    IsPrintable (entriesText column entries) := by
  have colon : isPrintable ':' = true := by decide
  induction entries with
  | nil => simp [entriesText]
  | cons entry entries ih =>
      obtain ⟨isKey, otherKeys⟩ := List.forall_mem_cons.mp keys
      obtain ⟨first, others⟩ := List.forall_mem_cons.mp printed
      simp [entriesText, colon, isKey.isInline.printable, first.value, ih otherKeys others]

theorem Node.IsWritable.isPrinted (writable : node.IsWritable) : node.IsPrinted := by
  have marks : IsPrintable [' ', '-', ':', '\n', '[', ']', '\x7b', '\x7d'] := by decide
  simp only [isPrintable_cons] at marks
  induction writable with
  | scalar writable =>
      constructor <;> intro column <;>
        simp [valueText, itemText, marks, isPrintable_scalarLine writable]
  | @sequence items writable ih =>
      cases items with
      | nil => constructor <;> intro column <;> simp [valueText, itemText, marks]
      | cons item items =>
          obtain ⟨first, others⟩ := List.forall_mem_cons.mp ih
          have rest := isPrintable_itemsText others
          constructor <;> intro column <;> simp [valueText, itemText, marks, first.item, rest]
  | @mapping entries keys writable ih =>
      cases entries with
      | nil => constructor <;> intro column <;> simp [valueText, itemText, marks]
      | cons entry entries =>
          obtain ⟨isKey, otherKeys⟩ := List.forall_mem_cons.mp keys
          obtain ⟨first, others⟩ := List.forall_mem_cons.mp ih
          have rest := isPrintable_entriesText otherKeys others
          constructor <;> intro column <;>
            simp [valueText, itemText, marks, isKey.isInline.printable, first.value, rest]

/-- A text that starts with a token and is read as a node up to its end is a document. -/
theorem read_of_blockNode {chars : List Char} (printable : IsPrintable chars)
    (starts : IsToken chars)
    (read : blockNode (2 * chars.length + 2) 0 ⟨chars, 0, true⟩ = .ok (node, ⟨[], 0, true⟩)) :
    Yaml.read (String.ofList chars) = .ok node := by
  have allowed : chars.all isAllowed = true :=
    List.all_eq_true.mpr fun c inside => (isAllowed_of_isPrintable (printable c inside)).1
  have first : ((Cursor.start chars).skip false).1 = ⟨chars, 0, true⟩ :=
    congrArg Prod.fst (starts.skipFrom false false false true 0)
  obtain ⟨c, rest, rfl, _⟩ := starts.visible
  have noMarker : (⟨c :: rest, 0, true⟩ : Cursor).atMarker = false := starts.noMarker
  have document : readDocument (2 * (c :: rest).length + 2) ⟨c :: rest, 0, true⟩ =
      .ok (node, ⟨[], 0, true⟩) := by
    simp only [readDocument, noMarker, Bool.false_and, Bool.false_eq_true, if_false]
    exact read
  have unmarked : c ≠ '\ufeff' := (isAllowed_of_isPrintable (printable c (by simp))).2.2.2
  rw [Yaml.read, String.toList_ofList]
  split
  · next isMark => exact absurd (List.cons.inj isMark).1 unmarked
  · simp only [allowed, normalize_of_isPrintable printable, first, document]
    rfl

/-- Reading the written form of a document gives back the document. -/
theorem read_print (writable : node.IsWritable) : Yaml.read (print node) = .ok node := by
  have below : (⟨[], 0, true⟩ : Cursor).IsBelow 0 := .inl rfl
  cases writable with
  | @scalar scalar writable =>
      have starts := isToken_scalarLine 2 writable []
      have read : blockNode (2 * (scalarLine 2 scalar).length + 2) 0
          ⟨scalarLine 2 scalar ++ [], 0, true⟩ = .ok (.scalar scalar, ⟨[], 0, true⟩) :=
        blockNode_scalarLine writable .finished below
      rw [List.append_nil] at starts read
      exact read_of_blockNode (isPrintable_scalarLine writable) starts read
  | @sequence items writable =>
      cases items with
      | nil =>
          have brackets : IsPrintable ['[', ']', '\n'] := by decide
          exact read_of_blockNode brackets (.of_mark (by decide) _)
            (blockNode_emptySequence .finished)
      | cons item items =>
          have printable :=
            isPrintable_itemsText (fun node inside => (writable node inside).isPrinted) 0
          have written : itemsText 0 (item :: items) =
              '-' :: (itemText 0 item ++ (itemsText 0 items ++ [])) := by
            simpa [spaces] using itemsText_cons 0 item items []
          rw [written] at printable
          change Yaml.read (String.ofList (itemsText 0 (item :: items))) = _
          rw [written]
          refine read_of_blockNode printable (isToken_dash 0 item _) ?_
          rw [blockNode_dash (atEntry_dash 0 0 true item _)]
          exact blockItems_readsBack (fun node inside => (writable node inside).readsBack) .finished
            below.leaves (by simp only [List.length_cons, List.length_append]; omega) []
  | @mapping entries keys writable =>
      cases entries with
      | nil =>
          have braces : IsPrintable ['\x7b', '\x7d', '\n'] := by decide
          exact read_of_blockNode braces (.of_mark (by decide) _)
            (blockNode_emptyMapping .finished)
      | cons entry entries =>
          obtain ⟨key, value⟩ := entry
          obtain ⟨isKey, otherKeys⟩ := List.forall_mem_cons.mp keys
          have printable := isPrintable_entriesText keys
            (fun entry inside => (writable entry inside).isPrinted) 0
          have written : entriesText 0 ((key, value) :: entries) =
              keyText key ++ ':' :: (valueText 0 value ++ (entriesText 0 entries ++ [])) := by
            simpa [spaces] using entriesText_cons 0 key value entries []
          rw [written] at printable
          change Yaml.read (String.ofList (entriesText 0 ((key, value) :: entries))) = _
          rw [written]
          refine read_of_blockNode printable (isKey.opensScalar _).token ?_
          exact blockNode_mapping isKey otherKeys
            (fun entry inside => (writable entry inside).readsBack) .finished below
            (by simp only [List.length_cons, List.length_append]; omega)

end RouteAtlas.Yaml
