import AttributeRelease.Pairwise.Keeper
import AttributeRelease.Proofs.Pairwise.Ledger

/-!
Identifiers may be kept in memory or in a table, and whoever asks cannot tell which. A register holds the active
identifiers and those ever issued; a table holds all rows that were ever inserted, retired ones included, and refuses
a row that breaks one of its two rules of uniqueness. Both answer by what they hold alone, and a question changes that
in the same way.
-/

namespace AttributeRelease.Pairwise

/-- What is asked of a keeper. -/
inductive Question where
  | find (pair : Pair)
  | insert (pair : Pair) (id : String)
  | deactivate (pair : Pair)
  deriving DecidableEq, Repr

/-- What is answered. Of a failure only the kind counts. -/
inductive Reply where
  | found (answer : Except ErrorKind (Option String))
  | inserted (answer : Except ErrorKind Unit)
  | deactivated (answer : Except ErrorKind Bool)

namespace Holdings

variable {h h' h'' : Holdings} {q : Question} {a a' : Reply}

/-- How a question is answered where nothing fails, and what is held afterwards. -/
inductive Gives (h : Holdings) : Question → Reply → Holdings → Prop
  | finds (pair : Pair) : Gives h (.find pair) (.found (.ok (h.active pair))) h
  | stores {pair : Pair} {id : String} (hadmits : h.Admits pair id) :
    Gives h (.insert pair id) (.inserted (.ok ())) (h.issue pair id)
  | refuses {pair : Pair} {id : String} (hadmits : ¬ h.Admits pair id) :
    Gives h (.insert pair id) (.inserted (.error .duplicate)) h
  | retires (pair : Pair) : Gives h (.deactivate pair) (.deactivated (.ok (h.active pair).isSome)) (h.retire pair)

/-- What is held decides the answer. -/
theorem Gives.unique (hgives : h.Gives q a h') (hgives' : h.Gives q a' h'') : a = a' ∧ h' = h'' := by
  cases hgives with
  | finds => cases hgives'; exact ⟨rfl, rfl⟩
  | stores hadmits =>
    cases hgives' with
    | stores => exact ⟨rfl, rfl⟩
    | refuses hnot => exact absurd hadmits hnot
  | refuses hnot =>
    cases hgives' with
    | stores hadmits => exact absurd hadmits hnot
    | refuses => exact ⟨rfl, rfl⟩
  | retires => cases hgives'; exact ⟨rfl, rfl⟩

end Holdings

/-- The replies where nothing fails: only an insertion may be refused, and that only as a duplicate. -/
inductive Reply.Proper : Reply → Prop
  | found (id? : Option String) : Proper (.found (.ok id?))
  | stored : Proper (.inserted (.ok ()))
  | refused : Proper (.inserted (.error .duplicate))
  | deactivated (retired : Bool) : Proper (.deactivated (.ok retired))

theorem Holdings.Gives.proper {h h' : Holdings} {q : Question} {a : Reply} (hgives : h.Gives q a h') : a.Proper := by
  cases hgives with
  | finds pair => exact .found _
  | stores => exact .stored
  | refuses => exact .refused
  | retires pair => exact .deactivated _

namespace Register

theorem admits_iff (r : Register) (pair : Pair) (id : String) :
    (ledger.holdings r).Admits pair id ↔ (r.find? pair).isSome = false ∧ id ∉ r.issued := by
  rw [Option.isSome_eq_false_iff, Option.isNone_iff_eq_none]
  rfl

theorem insert_of_admits {r : Register} {pair : Pair} {id : String} (hadmits : (ledger.holdings r).Admits pair id) :
    r.insert pair id = (.ok (), ⟨(pair, id) :: r.active, id :: r.issued⟩) := by
  obtain ⟨hpair, hid⟩ := (admits_iff r pair id).1 hadmits
  simp [insert, hpair, hid]

theorem insert_of_not_admits {r : Register} {pair : Pair} {id : String}
    (hadmits : ¬ (ledger.holdings r).Admits pair id) :
    ∃ e, e.kind = .duplicate ∧ r.insert pair id = (.error e, r) := by
  rw [admits_iff, not_and, not_not] at hadmits
  cases hpair : (r.find? pair).isSome with
  | true => exact ⟨_, rfl, by rw [insert, hpair, if_pos rfl]⟩
  | false => exact ⟨_, rfl, by rw [insert, hpair, if_neg (by simp), if_pos (hadmits hpair)]⟩

end Register

namespace Table

variable {pair other : Pair} {id : String} {rows : List Row}

/-- The two rules of uniqueness: no identifier stands in two rows, and no pair in two active ones. -/
structure UniqueRows (rows : List Row) : Prop where
  ids : (rows.map Row.id).Nodup
  pairs : ((rows.filter Row.isActive).map Row.pair).Nodup

theorem uniqueRows_nil : UniqueRows [] := ⟨.nil, .nil⟩

/-- A row when the active row of a pair is retired. -/
def Row.retire (pair : Pair) (row : Row) : Row :=
  if Row.isActiveFor pair row then { row with isActive := false } else row

/-- What the rows of a table hold. -/
def holdings (rows : List Row) : Holdings where
  active pair := (rows.find? (Row.isActiveFor pair)).map Row.id
  issued id := id ∈ rows.map Row.id

theorem isActiveFor_iff (row : Row) : Row.isActiveFor pair row = true ↔ row.isActive = true ∧ row.pair = pair := by
  simp [Row.isActiveFor]

@[simp] theorem id_retire (row : Row) : (Row.retire pair row).id = row.id := by
  unfold Row.retire
  split <;> rfl

@[simp] theorem pair_retire (row : Row) : (Row.retire pair row).pair = row.pair := by
  unfold Row.retire
  split <;> rfl

/-- Retiring leaves the rows of other pairs active. -/
theorem isActive_retire (row : Row) :
    (Row.retire pair row).isActive = (row.isActive && decide (row.pair ≠ pair)) := by
  by_cases hfor : Row.isActiveFor pair row = true
  · simp [Row.retire, hfor, ((isActiveFor_iff row).1 hfor).2]
  · rw [Row.retire, if_neg hfor]
    rw [isActiveFor_iff, not_and] at hfor
    cases hactive : row.isActive with
    | false => rfl
    | true => simp [hfor hactive]

theorem isActiveFor_retire (row : Row) :
    Row.isActiveFor other (Row.retire pair row) = (Row.isActiveFor other row && decide (other ≠ pair)) := by
  simp only [Row.isActiveFor, isActive_retire, pair_retire, Bool.and_assoc]
  congr 1
  by_cases hother : row.pair = other
  · simp [hother]
  · simp [hother]

theorem active_isSome (pair : Pair) (rows : List Row) :
    ((holdings rows).active pair).isSome = rows.any (Row.isActiveFor pair) := by
  rw [holdings, Option.isSome_map, List.isSome_find?]

theorem admits_iff (rows : List Row) (pair : Pair) (id : String) :
    (holdings rows).Admits pair id ↔ rows.any (Row.isActiveFor pair) = false ∧ rows.any (·.id = id) = false := by
  rw [Holdings.Admits, ← active_isSome, Option.isSome_eq_false_iff, Option.isNone_iff_eq_none]
  simp [holdings]

/-- A new row is added to what the table holds. -/
theorem holdings_append (hadmits : (holdings rows).Admits pair id) :
    holdings (rows ++ [⟨pair, id, true⟩]) = (holdings rows).issue pair id := by
  refine congrArg₂ Holdings.mk (funext fun other => ?_) (funext fun i => ?_)
  · rw [List.find?_append, Function.update_apply]
    by_cases hother : other = pair
    · subst hother
      have hnone : rows.find? (Row.isActiveFor other) = none := Option.map_eq_none_iff.1 hadmits.1
      simp [hnone, Row.isActiveFor]
    · have hnew : Row.isActiveFor other ⟨pair, id, true⟩ = false := by
        simpa [Row.isActiveFor] using Ne.symm hother
      simp [hother, hnew, holdings]
  · simp [holdings, or_comm]

/-- Retiring the row of a pair takes it from the active ones and leaves all identifiers issued. -/
theorem holdings_retire (pair : Pair) (rows : List Row) :
    holdings (rows.map (Row.retire pair)) = (holdings rows).retire pair := by
  refine congrArg₂ Holdings.mk (funext fun other => ?_) (funext fun i => ?_)
  · rw [List.find?_map, Option.map_map, Function.update_apply]
    have hsame : Row.id ∘ Row.retire pair = Row.id := funext id_retire
    have hfor : Row.isActiveFor other ∘ Row.retire pair =
        fun row => Row.isActiveFor other row && decide (other ≠ pair) := funext isActiveFor_retire
    rw [hsame, hfor]
    by_cases hother : other = pair
    · simp [hother]
    · simp [hother, holdings]
  · simp [holdings]

/-- A row may be added by the two rules when the table admits its pair and its identifier. -/
theorem uniqueRows_append_iff (hunique : UniqueRows rows) :
    UniqueRows (rows ++ [⟨pair, id, true⟩]) ↔ (holdings rows).Admits pair id := by
  have hids : ((rows ++ [(⟨pair, id, true⟩ : Row)]).map Row.id).Nodup ↔ rows.any (·.id = id) = false := by
    simp [List.nodup_append, hunique.ids]
  have hpairs : (((rows ++ [(⟨pair, id, true⟩ : Row)]).filter Row.isActive).map Row.pair).Nodup ↔
      rows.any (Row.isActiveFor pair) = false := by
    simp only [List.filter_append, List.map_append, List.nodup_append, hunique.pairs, true_and]
    simp [Row.isActiveFor]
    exact ⟨fun h row hrow hactive => h _ row hrow hactive rfl, fun h _ row hrow hactive heq => heq ▸ h row hrow hactive⟩
  rw [admits_iff, ← hids, ← hpairs]
  exact ⟨fun h => ⟨h.pairs, h.ids⟩, fun h => ⟨h.2, h.1⟩⟩

theorem UniqueRows.retire (hunique : UniqueRows rows) (pair : Pair) : UniqueRows (rows.map (Row.retire pair)) where
  ids := by
    have hsame : Row.id ∘ Row.retire pair = Row.id := funext id_retire
    rw [List.map_map, hsame]
    exact hunique.ids
  pairs := by
    have hsame : Row.pair ∘ Row.retire pair = Row.pair := funext pair_retire
    have hactive : Row.isActive ∘ Row.retire pair = fun row => row.isActive && decide (row.pair ≠ pair) :=
      funext isActive_retire
    rw [List.filter_map, List.map_map, hsame, hactive, ← List.filter_filter]
    exact hunique.pairs.sublist ((List.filter_sublist.filter _).map _)

theorem insert_of_admits (hadmits : (holdings rows).Admits pair id) :
    insert { rows := some rows } pair id = (.ok (), { rows := some (rows ++ [⟨pair, id, true⟩]) }) := by
  obtain ⟨hpair, hid⟩ := (admits_iff rows pair id).1 hadmits
  change (if rows.any (Row.isActiveFor pair) then _ else if rows.any (·.id = id) then _ else _) = _
  rw [hpair, hid, if_neg (by simp), if_neg (by simp)]

theorem insert_of_not_admits (hadmits : ¬ (holdings rows).Admits pair id) :
    ∃ e, e.kind = .duplicate ∧ insert { rows := some rows } pair id = (.error e, { rows := some rows }) := by
  rw [admits_iff, not_and, Bool.not_eq_false] at hadmits
  change ∃ e, _ ∧ (if rows.any (Row.isActiveFor pair) then _ else if rows.any (·.id = id) then _ else _) = _
  cases hpair : rows.any (Row.isActiveFor pair) with
  | true => exact ⟨_, rfl, if_pos rfl⟩
  | false => exact ⟨_, rfl, by rw [if_neg (by simp), if_pos (hadmits hpair)]⟩

theorem deactivate_rows (rows : List Row) (pair : Pair) :
    deactivate { rows := some rows } pair =
      (.ok ((holdings rows).active pair).isSome, { rows := some (rows.map (Row.retire pair)) }) := by
  rw [active_isSome]
  rfl

end Table

/-! ### Both -/

namespace Keeper

/-- The reply to a question, and the keeper after it. -/
def reply (k : Keeper) : Question → Reply × Keeper
  | .find pair => (.found ((k.find pair).mapError StoreError.kind), k)
  | .insert pair id => (.inserted ((k.insert pair id).1.mapError StoreError.kind), (k.insert pair id).2)
  | .deactivate pair => (.deactivated ((k.deactivate pair).1.mapError StoreError.kind), (k.deactivate pair).2)

/-- The replies to some questions in turn. -/
def replies (k : Keeper) : List Question → List Reply
  | [] => []
  | q :: qs => (k.reply q).1 :: (k.reply q).2.replies qs

/-- The keeper after some questions. -/
def after (k : Keeper) : List Question → Keeper
  | [] => k
  | q :: qs => (k.reply q).2.after qs

/-- A register replies by what it holds. -/
theorem register_reply (r : Register) (q : Question) :
    ∃ a r', (Keeper.register r).reply q = (a, .register r') ∧
      (Register.ledger.holdings r).Gives q a (Register.ledger.holdings r') := by
  cases q with
  | find pair => exact ⟨_, r, rfl, .finds pair⟩
  | insert pair id =>
    by_cases hadmits : (Register.ledger.holdings r).Admits pair id
    · refine ⟨.inserted (.ok ()), ⟨(pair, id) :: r.active, id :: r.issued⟩, ?_, ?_⟩
      · rw [reply, insert, Register.insert_of_admits hadmits]
        rfl
      · rw [Register.holdings_insert]
        exact .stores hadmits
    · obtain ⟨e, hkind, hinsert⟩ := Register.insert_of_not_admits hadmits
      refine ⟨.inserted (.error .duplicate), r, ?_, .refuses hadmits⟩
      rw [reply, insert, hinsert, ← hkind]
      rfl
  | deactivate pair =>
    refine ⟨_, (r.deactivate pair).2, rfl, ?_⟩
    rw [Register.holdings_deactivate]
    exact .retires pair

/-- A table replies by what its rows hold, and keeps the two rules of uniqueness. -/
theorem table_reply {rows : List Row} (hunique : Table.UniqueRows rows) (q : Question) :
    ∃ a rows', (Keeper.table { rows := some rows }).reply q = (a, .table { rows := some rows' }) ∧
      Table.UniqueRows rows' ∧ (Table.holdings rows).Gives q a (Table.holdings rows') := by
  cases q with
  | find pair => exact ⟨_, rows, rfl, hunique, .finds pair⟩
  | insert pair id =>
    by_cases hadmits : (Table.holdings rows).Admits pair id
    · refine ⟨.inserted (.ok ()), rows ++ [⟨pair, id, true⟩], ?_, ?_, ?_⟩
      · rw [reply, insert, Table.insert_of_admits hadmits]
        rfl
      · exact (Table.uniqueRows_append_iff hunique).2 hadmits
      · rw [Table.holdings_append hadmits]
        exact .stores hadmits
    · obtain ⟨e, hkind, hinsert⟩ := Table.insert_of_not_admits hadmits
      refine ⟨.inserted (.error .duplicate), rows, ?_, hunique, .refuses hadmits⟩
      rw [reply, insert, hinsert, ← hkind]
      rfl
  | deactivate pair =>
    refine ⟨.deactivated (.ok ((Table.holdings rows).active pair).isSome), rows.map (Table.Row.retire pair), ?_,
      hunique.retire pair, ?_⟩
    · rw [reply, deactivate, Table.deactivate_rows]
      rfl
    · rw [Table.holdings_retire]
      exact .retires pair

/-- A table and a register that hold the same reply the same, now and later. -/
theorem replies_eq {rows : List Row} {r : Register} (hunique : Table.UniqueRows rows)
    (hsame : Table.holdings rows = Register.ledger.holdings r) (qs : List Question) :
    (Keeper.table { rows := some rows }).replies qs = (Keeper.register r).replies qs := by
  induction qs generalizing rows r with
  | nil => rfl
  -- what both hold decides the reply and what they hold next, so they still hold the same
  | cons q qs ih =>
    obtain ⟨a, rows', hreply, hunique', hgives⟩ := table_reply hunique q
    obtain ⟨a', r', hreply', hgives'⟩ := register_reply r q
    rw [hsame] at hgives
    obtain ⟨rfl, hsame'⟩ := hgives.unique hgives'
    rw [replies, replies, hreply, hreply', ih hunique' hsame']

theorem register_proper (r : Register) (qs : List Question) : ∀ a ∈ (Keeper.register r).replies qs, a.Proper := by
  induction qs generalizing r with
  | nil => simp [replies]
  | cons q qs ih =>
    obtain ⟨a, r', hreply, hgives⟩ := register_reply r q
    rw [replies, hreply, List.forall_mem_cons]
    exact ⟨hgives.proper, ih r'⟩

theorem table_after {rows : List Row} (hunique : Table.UniqueRows rows) (qs : List Question) :
    ∃ rows', (Keeper.table { rows := some rows }).after qs = .table { rows := some rows' } ∧
      Table.UniqueRows rows' := by
  induction qs generalizing rows with
  | nil => exact ⟨rows, rfl, hunique⟩
  | cons q qs ih =>
    obtain ⟨a, rows', hreply, hunique', -⟩ := table_reply hunique q
    rw [after, hreply]
    exact ih hunique'

end Keeper

/-- **A register and a table reply alike.** Both empty at first, they give the same replies to the same questions,
whatever these are. Nothing fails but insertions, and these only as duplicates. The rows of the table keep the two
rules of uniqueness, and an insertion is refused exactly when the new row would break one of them. -/
theorem keepers_reply_alike (qs : List Question) :
    (Keeper.table {}).replies qs = (Keeper.register {}).replies qs ∧
      (∀ a ∈ (Keeper.register {}).replies qs, a.Proper) ∧
      ∃ rows, (Keeper.table {}).after qs = .table { rows := some rows } ∧ Table.UniqueRows rows ∧
        ∀ pair id, ((Table.insert { rows := some rows } pair id).1 = .ok () ↔
          Table.UniqueRows (rows ++ [⟨pair, id, true⟩])) := by
  have hempty : Table.holdings [] = Register.ledger.holdings {} :=
    congrArg (Holdings.mk _) (funext fun id => by simp)
  refine ⟨Keeper.replies_eq Table.uniqueRows_nil hempty qs, Keeper.register_proper {} qs, ?_⟩
  obtain ⟨rows, hafter, hunique⟩ := Keeper.table_after Table.uniqueRows_nil qs
  refine ⟨rows, hafter, hunique, fun pair id => ?_⟩
  rw [Table.uniqueRows_append_iff hunique]
  by_cases hadmits : (Table.holdings rows).Admits pair id
  · simp [Table.insert_of_admits hadmits, hadmits]
  · obtain ⟨e, -, hinsert⟩ := Table.insert_of_not_admits hadmits
    simp [hinsert, hadmits]

end AttributeRelease.Pairwise
