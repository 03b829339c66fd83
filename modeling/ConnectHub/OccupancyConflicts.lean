import ConnectHub.Occupancy

/-!
# Conflicts between the rows of an occupancy count

Rows of one name may disagree in their remote id or their product, and rows of one remote id may carry
different names. The count meets its rows one by one and compares each with the first group that takes it, so
whether it notices depends on the order: a group opened without a remote id takes the id of another group when
its own row comes late enough, and an empty id keeps every later one of its name from being compared.
-/

namespace ConnectHub

open Store

/-- The count of rows met in one order. -/
def occupancyOf (rows : List GroupedSession) : Occupancy :=
  { effective := (sessionGrouping.collect rows [] false).1.length
    ambiguous := (sessionGrouping.collect rows [] false).2
    byProduct := ((sessionGrouping.collect rows [] false).1.filterMap (·.productId)).foldl countProduct [] }

/-- An occupancy count meets the rows it considers in their order. -/
example (remote : List RemoteSession) (instances reservations : List OccupiedSession)
    (absentInstanceIds : List Uuid) :
    occupancy remote instances reservations absentInstanceIds =
      occupancyOf (countedSessions remote instances reservations absentInstanceIds) := rfl

/-- Whether two rows conflict: one name with different remote ids or products, or one remote id under two
names. -/
def GroupedSession.conflicts (a b : GroupedSession) : Bool :=
  if a.instanceName = b.instanceName then
    (a.providerInstanceId.isSome && b.providerInstanceId.isSome &&
      a.providerInstanceId ≠ b.providerInstanceId) ||
    (a.productId.isSome && b.productId.isSome && a.productId ≠ b.productId)
  else a.providerInstanceId.isSome && a.providerInstanceId = b.providerInstanceId

/-- Whether the conflict of two rows shows in every order: the products of a name always do; its remote ids do
unless a row of the name carries an empty one; a remote id under two names does where every row of both names
carries one. -/
def showsConflict (rows : List GroupedSession) (a b : GroupedSession) : Bool :=
  if a.instanceName = b.instanceName then
    (truthy a.providerInstanceId && truthy b.providerInstanceId &&
      a.providerInstanceId ≠ b.providerInstanceId &&
      rows.all fun r => r.instanceName ≠ a.instanceName || r.providerInstanceId ≠ some "") ||
    (a.productId.isSome && b.productId.isSome && a.productId ≠ b.productId)
  else truthy a.providerInstanceId && a.providerInstanceId = b.providerInstanceId &&
    rows.all fun r => (r.instanceName ≠ a.instanceName && r.instanceName ≠ b.instanceName) ||
      truthy r.providerInstanceId

/-- Two of the rows conflict. -/
def Conflicting (rows : List GroupedSession) : Prop :=
  ∃ a ∈ rows, ∃ b ∈ rows, a.conflicts b = true

/-- Two of the rows conflict, and it shows in every order. -/
def ShowsConflict (rows : List GroupedSession) : Prop :=
  ∃ a ∈ rows, ∃ b ∈ rows, showsConflict rows a b = true

/-- How often a product was counted. -/
def Occupancy.countOf (counted : Occupancy) (productId : Uuid) : Nat :=
  (counted.byProduct.lookup productId).getD 0

/-- The verdict on some rows, met in an order, is right: it is ambiguous exactly when two of them conflict,
and otherwise it counts the names, and those of each product, and no remote id is that of two sessions. -/
structure RightVerdict (rows order : List GroupedSession) : Prop where
  ambiguous : (occupancyOf order).ambiguous = true ↔ Conflicting rows
  effective : (occupancyOf order).ambiguous = false →
    (occupancyOf order).effective = (rows.map (·.instanceName)).toFinset.card
  ids : (occupancyOf order).ambiguous = false →
    ((sessionGrouping.collect order [] false).1.filterMap (·.providerInstanceId)).Nodup
  byProduct : (occupancyOf order).ambiguous = false → ∀ p, (occupancyOf order).countOf p =
    ((rows.filter fun r => r.productId = some p).map (·.instanceName)).toFinset.card

section Steps

variable {g a : GroupedSession} {done groups rows order : List GroupedSession}

/-- A group agrees with a row of its name whose remote id and product are not others than its own. -/
theorem agree_of (hname : g.instanceName = a.instanceName)
    (hid : truthy g.providerInstanceId = true → truthy a.providerInstanceId = true →
      g.providerInstanceId = a.providerInstanceId)
    (hproduct : ∀ p q, g.productId = some p → a.productId = some q → p = q) :
    sessionGrouping.clashes g a = false := by
  have hsame :
      sameSession g.instanceName g.providerInstanceId a.instanceName a.providerInstanceId = true := by
    simp only [sameSession, hname, decide_true, Bool.true_and, Bool.or_eq_true, Bool.not_eq_true',
      decide_eq_true_eq]
    by_cases hg : truthy g.providerInstanceId = true
    · by_cases ha : truthy a.providerInstanceId = true
      · exact Or.inr (hid hg ha)
      · exact Or.inl (Or.inr (Bool.not_eq_true _ ▸ ha))
    · exact Or.inl (Or.inl (Bool.not_eq_true _ ▸ hg))
  simp only [sessionGrouping, hsame, Bool.not_true, Bool.false_or]
  cases hp : g.productId with
  | none => rfl
  | some p =>
    cases hq : a.productId with
    | none => rfl
    | some q => simp [hproduct p q hp hq]

/-- A group and a row that agree carry one name, no two remote ids, and no two products. -/
theorem of_agree (h : sessionGrouping.clashes g a = false) :
    g.instanceName = a.instanceName ∧
      (truthy g.providerInstanceId = true → truthy a.providerInstanceId = true →
        g.providerInstanceId = a.providerInstanceId) ∧
      ∀ p q, g.productId = some p → a.productId = some q → p = q := by
  simp only [sessionGrouping, sameSession, Bool.or_eq_false_iff, Bool.not_eq_false', Bool.and_eq_true,
    Bool.or_eq_true, Bool.not_eq_true', decide_eq_true_eq] at h
  obtain ⟨⟨hname, hid⟩, hproduct⟩ := h
  refine ⟨hname, fun hg ha => ?_, fun p q hp hq => ?_⟩
  · rcases hid with (hnone | hnone) | hsame
    · rw [hg] at hnone
      cases hnone
    · rw [ha] at hnone
      cases hnone
    · exact hsame
  · simpa [hp, hq] using hproduct

/-- What a group takes: the rows of its name and of its remote id. -/
theorem joins_iff : sessionGrouping.joins g a = true ↔ g.instanceName = a.instanceName ∨
    (truthy a.providerInstanceId = true ∧ g.providerInstanceId = a.providerInstanceId) := by
  simp [sessionGrouping]

/-- A merged group keeps the first remote id that is known. -/
theorem merge_providerInstanceId :
    (sessionGrouping.merge g a).providerInstanceId = g.providerInstanceId.or a.providerInstanceId :=
  Option.orElse_eq_or

/-- And the first product that is known. -/
theorem merge_productId : (sessionGrouping.merge g a).productId = g.productId.or a.productId :=
  Option.orElse_eq_or

/-- A group that knows a remote id keeps it. -/
theorem merge_known (h : g.providerInstanceId ≠ none) :
    (sessionGrouping.merge g a).providerInstanceId = g.providerInstanceId := by
  obtain ⟨x, hx⟩ := Option.ne_none_iff_exists'.mp h
  rw [merge_providerInstanceId, hx, Option.some_or]

/-- What groups carry comes from the rows of their names. -/
structure Drawn (done groups : List GroupedSession) : Prop where
  named : ∀ g ∈ groups, ∃ r ∈ done, r.instanceName = g.instanceName
  id : ∀ g ∈ groups, ∀ x, g.providerInstanceId = some x →
    ∃ r ∈ done, r.instanceName = g.instanceName ∧ r.providerInstanceId = some x
  product : ∀ g ∈ groups, ∀ p, g.productId = some p →
    ∃ r ∈ done, r.instanceName = g.instanceName ∧ r.productId = some p

/-- It still does with one more row. -/
theorem Drawn.place (h : Drawn done groups) (a : GroupedSession) :
    Drawn (done ++ [a]) (sessionGrouping.place a groups).1 := by
  have hgrown : ∀ {P : GroupedSession → Prop}, (∃ r ∈ done, P r) → ∃ r ∈ done ++ [a], P r := by
    rintro P ⟨r, hr, hP⟩
    exact ⟨r, List.mem_append_left _ hr, hP⟩
  have hlast : a ∈ done ++ [a] := List.mem_append_right _ (List.mem_singleton_self a)
  refine ⟨fun g' hg' => ?_, fun g' hg' x hx => ?_, fun g' hg' p hp => ?_⟩
  · rcases sessionGrouping.mem_place hg' with hold | ⟨hstart, -⟩ | ⟨g, hg, -, -, rfl⟩
    · exact hgrown (h.named g' hold)
    · exact ⟨a, hlast, congrArg (·.instanceName) hstart.symm⟩
    · exact hgrown (h.named g hg)
  · rcases sessionGrouping.mem_place hg' with hold | ⟨hstart, -⟩ | ⟨g, hg, -, hagree, rfl⟩
    · exact hgrown (h.id g' hold x hx)
    · exact ⟨a, hlast, congrArg (·.instanceName) hstart.symm,
        (congrArg (·.providerInstanceId) hstart.symm).trans hx⟩
    · rcases Option.or_eq_some_iff.mp (merge_providerInstanceId.symm.trans hx) with hx | ⟨-, hx⟩
      · exact hgrown (h.id g hg x hx)
      · exact ⟨a, hlast, (of_agree hagree).1.symm, hx⟩
  · rcases sessionGrouping.mem_place hg' with hold | ⟨hstart, -⟩ | ⟨g, hg, -, hagree, rfl⟩
    · exact hgrown (h.product g' hold p hp)
    · exact ⟨a, hlast, congrArg (·.instanceName) hstart.symm, (congrArg (·.productId) hstart.symm).trans hp⟩
    · rcases Option.or_eq_some_iff.mp (merge_productId.symm.trans hp) with hp | ⟨-, hp⟩
      · exact hgrown (h.product g hg p hp)
      · exact ⟨a, hlast, (of_agree hagree).1.symm, hp⟩

/-- What the groups tell of the rows that were met without a clash. -/
structure Summarizes (done groups : List GroupedSession) : Prop extends Drawn done groups where
  distinct : (groups.map (·.instanceName)).Nodup
  row : ∀ r ∈ done, ∃ g ∈ groups, g.instanceName = r.instanceName ∧
    (∀ p, r.productId = some p → g.productId = some p) ∧
    (r.providerInstanceId ≠ none → g.providerInstanceId ≠ none) ∧
    (truthy r.providerInstanceId = true →
      g.providerInstanceId = r.providerInstanceId ∨ g.providerInstanceId = some "")
  shared : ∀ g ∈ groups, ∀ h ∈ groups, g.instanceName ≠ h.instanceName →
    truthy g.providerInstanceId = true → g.providerInstanceId = h.providerInstanceId →
    ∃ r ∈ done, (r.instanceName = g.instanceName ∨ r.instanceName = h.instanceName) ∧
      truthy r.providerInstanceId = false

/-- Groups of one name are one. -/
theorem Summarizes.eq_of_name {h : GroupedSession} (hsum : Summarizes done groups) (hg : g ∈ groups)
    (hh : h ∈ groups) (hname : g.instanceName = h.instanceName) : g = h :=
  List.inj_on_of_nodup_map hsum.distinct hg hh hname

/-- A group that knows no remote id has a row without one. -/
theorem Summarizes.row_without_id (hsum : Summarizes done groups) (hg : g ∈ groups)
    (hnone : g.providerInstanceId = none) :
    ∃ r ∈ done, r.instanceName = g.instanceName ∧ truthy r.providerInstanceId = false := by
  obtain ⟨r, hr, hname⟩ := hsum.named g hg
  refine ⟨r, hr, hname, ?_⟩
  obtain ⟨h, hh, hsame, -, hid, -⟩ := hsum.row r hr
  obtain rfl : g = h := hsum.eq_of_name hg hh (hname.symm.trans hsame.symm)
  have hrow : r.providerInstanceId = none := by
    by_contra hne
    exact hid hne hnone
  rw [hrow]
  rfl

/-- The names of the groups stay distinct. -/
theorem Summarizes.distinct_place (hsum : Summarizes done groups) (a : GroupedSession) :
    ((sessionGrouping.place a groups).1.map (·.instanceName)).Nodup := by
  have hone := (sessionGrouping.collect_names [a] groups false hsum.distinct).1
  rw [Grouping.collect_cons] at hone
  exact hone

/-- A group that takes a row tells of it. -/
theorem merge_row (hagree : sessionGrouping.clashes g a = false) :
    (∀ p, a.productId = some p → (sessionGrouping.merge g a).productId = some p) ∧
      (a.providerInstanceId ≠ none → (sessionGrouping.merge g a).providerInstanceId ≠ none) ∧
      (truthy a.providerInstanceId = true →
        (sessionGrouping.merge g a).providerInstanceId = a.providerInstanceId ∨
          (sessionGrouping.merge g a).providerInstanceId = some "") := by
  obtain ⟨-, hid, hproduct⟩ := of_agree hagree
  refine ⟨fun p hp => ?_, fun hne => ?_, fun htruthy => ?_⟩
  · rw [merge_productId]
    cases hq : g.productId with
    | none => exact hp
    | some q => rw [hproduct q p hq hp, Option.some_or]
  · rw [merge_providerInstanceId]
    cases hx : g.providerInstanceId with
    | none => exact hne
    | some x => exact Option.some_ne_none x
  · rw [merge_providerInstanceId]
    cases hx : g.providerInstanceId with
    | none => exact Or.inl rfl
    | some x =>
      rw [Option.some_or]
      by_cases hempty : x = ""
      · exact Or.inr (congrArg some hempty)
      · rw [hx] at hid
        exact Or.inl (hid (by simpa [truthy] using hempty) htruthy)

/-- The groups tell of one more row that was met without a clash. -/
theorem Summarizes.place (hsum : Summarizes done groups) (a : GroupedSession)
    (hagree : (sessionGrouping.place a groups).2 = false) :
    Summarizes (done ++ [a]) (sessionGrouping.place a groups).1 := by
  have hgrown : ∀ {P : GroupedSession → Prop}, (∃ r ∈ done, P r) → ∃ r ∈ done ++ [a], P r := by
    rintro P ⟨r, hr, hP⟩
    exact ⟨r, List.mem_append_left _ hr, hP⟩
  refine { hsum.toDrawn.place a with distinct := hsum.distinct_place a, row := ?_, shared := ?_ }
  · intro r hr
    rcases List.mem_append.mp hr with hold | hnew
    · obtain ⟨g, hg, hname, hproduct, hknown, hid⟩ := hsum.row r hold
      rcases sessionGrouping.place_kept hg with hkept | ⟨-, -, hmerged⟩
      · exact ⟨g, hkept, hname, hproduct, hknown, hid⟩
      · refine ⟨_, hmerged, hname, fun p hp => ?_, fun hne => ?_, fun htruthy => ?_⟩
        · rw [merge_productId, hproduct p hp, Option.some_or]
        · rw [merge_known (hknown hne)]
          exact hknown hne
        · have hne : r.providerInstanceId ≠ none := by
            intro hnone
            rw [hnone] at htruthy
            cases htruthy
          rw [merge_known (hknown hne)]
          exact hid htruthy
    · obtain rfl := List.mem_singleton.mp hnew
      rcases sessionGrouping.place_placed hagree with hstart | ⟨g, -, -, hclash, hmerged⟩
      · exact ⟨r, hstart, rfl, fun _ hp => hp, fun hne => hne, fun _ => Or.inl rfl⟩
      · exact ⟨_, hmerged, (of_agree hclash).1, merge_row hclash⟩
  · -- a group opened by the row takes an id no group had; a group it fills in had rows without one
    have hopened : ∀ h ∈ groups, (∀ g ∈ groups, sessionGrouping.joins g a = false) →
        truthy a.providerInstanceId = true → a.providerInstanceId ≠ h.providerInstanceId := by
      intro h hh hnone htruthy hid
      have hjoins : sessionGrouping.joins h a = true := joins_iff.mpr (Or.inr ⟨htruthy, hid.symm⟩)
      rw [hnone h hh] at hjoins
      cases hjoins
    have hfilled : ∀ g ∈ groups, ∀ h ∈ groups, g.instanceName ≠ h.instanceName →
        truthy (sessionGrouping.merge g a).providerInstanceId = true →
        (sessionGrouping.merge g a).providerInstanceId = h.providerInstanceId →
        ∃ r ∈ done, (r.instanceName = g.instanceName ∨ r.instanceName = h.instanceName) ∧
          truthy r.providerInstanceId = false := by
      intro g hg h hh hne htruthy hid
      by_cases hnone : g.providerInstanceId = none
      · obtain ⟨r, hr, hname, hwithout⟩ := hsum.row_without_id hg hnone
        exact ⟨r, hr, Or.inl hname, hwithout⟩
      · rw [merge_known hnone] at htruthy hid
        exact hsum.shared g hg h hh hne htruthy hid
    intro g' hg' h' hh' hne htruthy hid
    rcases sessionGrouping.mem_place hg' with hg | ⟨hg, hnone⟩ | ⟨g, hg, hjoins, hclash, rfl⟩
    · rcases sessionGrouping.mem_place hh' with hh | ⟨hh, hnone⟩ | ⟨h, hh, -, -, rfl⟩
      · exact hgrown (hsum.shared g' hg h' hh hne htruthy hid)
      · have hsame : h'.providerInstanceId = a.providerInstanceId := congrArg (·.providerInstanceId) hh
        rw [hid, hsame] at htruthy
        exact absurd (hsame.symm.trans hid.symm) (hopened g' hg hnone htruthy)
      · rw [hid] at htruthy
        obtain ⟨r, hr, hname, hwithout⟩ := hgrown (hfilled h hh g' hg (Ne.symm hne) htruthy hid.symm)
        exact ⟨r, hr, hname.symm, hwithout⟩
    · have hsame : g'.providerInstanceId = a.providerInstanceId := congrArg (·.providerInstanceId) hg
      rw [hsame] at htruthy hid
      rcases sessionGrouping.mem_place hh' with hh | ⟨hh, -⟩ | ⟨h, hh, hjoins, -, -⟩
      · exact absurd hid (hopened h' hh hnone htruthy)
      · exact absurd (congrArg (·.instanceName) (hg.trans hh.symm)) hne
      · rw [hnone h hh] at hjoins
        cases hjoins
    · rcases sessionGrouping.mem_place hh' with hh | ⟨-, hnone⟩ | ⟨h, -, -, hclash', rfl⟩
      · exact hgrown (hfilled g hg h' hh hne htruthy hid)
      · rw [hnone g hg] at hjoins
        cases hjoins
      · exact absurd ((of_agree hclash).1.trans (of_agree hclash').1.symm) hne

/-- Rows met without a clash are told by their groups. -/
theorem summarizes_collect (h : (sessionGrouping.collect rows [] false).2 = false) :
    Summarizes rows (sessionGrouping.collect rows [] false).1 := by
  have hstart : Summarizes [] [] := by
    refine ⟨⟨fun g hg => ?_, fun g hg => ?_, fun g hg => ?_⟩, List.nodup_nil, fun r hr => ?_, fun g hg => ?_⟩
    all_goals exact absurd (by assumption) List.not_mem_nil
  exact sessionGrouping.collect_invariant (fun _ _ a hsum hagree => hsum.place a hagree) hstart h

end Steps

section Orders

variable {g a b : GroupedSession} {rows order groups : List GroupedSession}

/-- Two rows of one name conflict where both know a remote id, and not the same, or both a product. -/
theorem conflicts_of_name (hname : a.instanceName = b.instanceName) : a.conflicts b = true ↔
    (a.providerInstanceId ≠ none ∧ b.providerInstanceId ≠ none ∧
      a.providerInstanceId ≠ b.providerInstanceId) ∨
    (a.productId ≠ none ∧ b.productId ≠ none ∧ a.productId ≠ b.productId) := by
  simp [GroupedSession.conflicts, hname, Option.isSome_iff_ne_none, and_assoc]

/-- Two rows of different names conflict where both know the same remote id. -/
theorem conflicts_of_ne (hname : a.instanceName ≠ b.instanceName) : a.conflicts b = true ↔
    a.providerInstanceId ≠ none ∧ a.providerInstanceId = b.providerInstanceId := by
  simp [GroupedSession.conflicts, hname, Option.isSome_iff_ne_none]

/-- A remote id that counts is known. -/
theorem ne_none_of_truthy {x : Option String} (h : truthy x = true) : x ≠ none := by
  intro hnone
  rw [hnone] at h
  cases h

/-- A conflict that shows in every order is one. -/
theorem ShowsConflict.conflicting (h : ShowsConflict rows) : Conflicting rows := by
  obtain ⟨a, ha, b, hb, hshows⟩ := h
  refine ⟨a, ha, b, hb, ?_⟩
  unfold showsConflict at hshows
  split at hshows
  · next hname =>
    rw [conflicts_of_name hname]
    simp only [Bool.or_eq_true, Bool.and_eq_true, decide_eq_true_eq, Option.isSome_iff_ne_none] at hshows
    rcases hshows with ⟨⟨⟨ha, hb⟩, hne⟩, -⟩ | ⟨⟨ha, hb⟩, hne⟩
    · exact Or.inl ⟨ne_none_of_truthy ha, ne_none_of_truthy hb, hne⟩
    · exact Or.inr ⟨ha, hb, hne⟩
  · next hname =>
    rw [conflicts_of_ne hname]
    simp only [Bool.and_eq_true, decide_eq_true_eq] at hshows
    exact ⟨ne_none_of_truthy hshows.1.1, hshows.1.2⟩

/-- Rows without a conflict that shows: those of a name agree in the product, and in the remote id unless one
carries an empty one; a remote id under two names is missing in a row of one of them. -/
theorem not_showsConflict_iff : ¬ShowsConflict rows ↔ ∀ a ∈ rows, ∀ b ∈ rows,
    (a.instanceName = b.instanceName →
      (∀ p q, a.productId = some p → b.productId = some q → p = q) ∧
      (truthy a.providerInstanceId = true → truthy b.providerInstanceId = true →
        a.providerInstanceId ≠ b.providerInstanceId →
        ∃ r ∈ rows, r.instanceName = a.instanceName ∧ r.providerInstanceId = some "")) ∧
    (a.instanceName ≠ b.instanceName → truthy a.providerInstanceId = true →
      a.providerInstanceId = b.providerInstanceId →
      ∃ r ∈ rows, (r.instanceName = a.instanceName ∨ r.instanceName = b.instanceName) ∧
        truthy r.providerInstanceId = false) := by
  unfold ShowsConflict
  push Not
  refine forall₂_congr fun a _ => forall₂_congr fun b _ => ?_
  by_cases hname : a.instanceName = b.instanceName
  · simp only [showsConflict, hname, if_true, forall_const, ne_eq, not_true_eq_false, false_implies, and_true]
    cases a.productId with
    | none => simp
    | some p =>
      cases b.productId with
      | none => simp
      | some q =>
        simp
        grind
  · simp only [showsConflict, hname, if_false, false_implies, true_and, ne_eq, not_false_eq_true,
      forall_const]
    simp
    grind

/-- Whether a conflict shows does not depend on the order. -/
theorem showsConflict_perm (h : order.Perm rows) : ShowsConflict order ↔ ShowsConflict rows := by
  rw [← not_iff_not]
  simp only [not_showsConflict_iff, h.mem_iff]

/-- Nor does whether there is one. -/
theorem conflicting_perm (h : order.Perm rows) : Conflicting order ↔ Conflicting rows := by
  simp only [Conflicting, h.mem_iff]

/-- Rows met without a clash show no conflict. -/
theorem not_showsConflict_of_agree (h : (sessionGrouping.collect rows [] false).2 = false) :
    ¬ShowsConflict rows := by
  have hsum := summarizes_collect h
  rw [not_showsConflict_iff]
  refine fun a ha b hb => ⟨fun hname => ⟨fun p q hp hq => ?_, fun hta htb hne => ?_⟩, fun hname hta hid => ?_⟩
  · obtain ⟨g, hg, hga, hproduct, -⟩ := hsum.row a ha
    obtain ⟨g', hg', hgb, hproduct', -⟩ := hsum.row b hb
    obtain rfl : g = g' := hsum.eq_of_name hg hg' (hga.trans (hname.trans hgb.symm))
    exact Option.some.inj ((hproduct p hp).symm.trans (hproduct' q hq))
  · obtain ⟨g, hg, hga, -, -, hida⟩ := hsum.row a ha
    obtain ⟨g', hg', hgb, -, -, hidb⟩ := hsum.row b hb
    obtain rfl : g = g' := hsum.eq_of_name hg hg' (hga.trans (hname.trans hgb.symm))
    have hempty : g.providerInstanceId = some "" := by
      rcases hida hta with hsame | hempty
      · rcases hidb htb with hsame' | hempty
        · exact absurd (hsame.symm.trans hsame') hne
        · exact hempty
      · exact hempty
    obtain ⟨r, hr, hrname, hrid⟩ := hsum.id g hg "" hempty
    exact ⟨r, hr, hrname.trans hga, hrid⟩
  · obtain ⟨g, hg, hga, -, -, hida⟩ := hsum.row a ha
    obtain ⟨g', hg', hgb, -, -, hidb⟩ := hsum.row b hb
    -- a group with an empty id comes from a row with one
    rcases hida hta with hsame | hempty
    · rcases hidb (hid ▸ hta) with hsame' | hempty
      · have hne : g.instanceName ≠ g'.instanceName := fun heq => hname (hga.symm.trans (heq.trans hgb))
        obtain ⟨r, hr, hrname, hrid⟩ := hsum.shared g hg g' hg' hne (hsame ▸ hta)
          (hsame.trans (hid.trans hsame'.symm))
        exact ⟨r, hr, hrname.imp (·.trans hga) (·.trans hgb), hrid⟩
      · obtain ⟨r, hr, hrname, hrid⟩ := hsum.id g' hg' "" hempty
        exact ⟨r, hr, Or.inr (hrname.trans hgb), by rw [hrid]; rfl⟩
    · obtain ⟨r, hr, hrname, hrid⟩ := hsum.id g hg "" hempty
      exact ⟨r, hr, Or.inl (hrname.trans hga), by rw [hrid]; rfl⟩

/-- Rows that do not conflict are met without a clash. -/
theorem agree_of_not_conflicting (h : ¬Conflicting rows) :
    (sessionGrouping.collect rows [] false).2 = false := by
  have hnone : ∀ a ∈ rows, ∀ b ∈ rows, a.conflicts b ≠ true := fun a ha b hb hab => h ⟨a, ha, b, hb, hab⟩
  have hagree : ∀ done groups a, a ∈ rows → (Drawn done groups ∧ done ⊆ rows) →
      (sessionGrouping.place a groups).2 = false := by
    rintro done groups a ha ⟨hdrawn, hsub⟩
    refine sessionGrouping.place_agrees fun g hg hjoins => ?_
    have hname : g.instanceName = a.instanceName := by
      rcases joins_iff.mp hjoins with hname | ⟨htruthy, hid⟩
      · exact hname
      · obtain ⟨x, hx⟩ := Option.ne_none_iff_exists'.mp (ne_none_of_truthy htruthy)
        obtain ⟨r, hr, hrname, hrid⟩ := hdrawn.id g hg x (hid.trans hx)
        by_contra hne
        rw [← hrname] at hne
        refine hnone r (hsub hr) a ha ((conflicts_of_ne hne).mpr ⟨?_, hrid.trans hx.symm⟩)
        rw [hrid]
        exact Option.some_ne_none x
    refine agree_of hname (fun hg' ha' => ?_) fun p q hp hq => ?_
    · obtain ⟨x, hx⟩ := Option.ne_none_iff_exists'.mp (ne_none_of_truthy hg')
      obtain ⟨r, hr, hrname, hrid⟩ := hdrawn.id g hg x hx
      by_contra hne
      refine hnone r (hsub hr) a ha ((conflicts_of_name (hrname.trans hname)).mpr (Or.inl ⟨?_, ?_, ?_⟩))
      · rw [hrid]
        exact Option.some_ne_none x
      · exact ne_none_of_truthy ha'
      · rw [hrid, ← hx]
        exact hne
    · obtain ⟨r, hr, hrname, hrproduct⟩ := hdrawn.product g hg p hp
      by_contra hne
      refine hnone r (hsub hr) a ha ((conflicts_of_name (hrname.trans hname)).mpr (Or.inr ⟨?_, ?_, ?_⟩))
      · rw [hrproduct]
        exact Option.some_ne_none p
      · rw [hq]
        exact Option.some_ne_none q
      · rw [hrproduct, hq]
        exact fun heq => hne (Option.some.inj heq)
  refine sessionGrouping.collect_agrees (I := fun done groups => Drawn done groups ∧ done ⊆ rows) hagree
    (fun done groups a ha hI => ⟨hI.1.place a, ?_⟩) ⟨⟨?_, ?_, ?_⟩, List.nil_subset _⟩
  · intro r hr
    rcases List.mem_append.mp hr with hold | hnew
    · exact hI.2 hold
    · rw [List.mem_singleton.mp hnew]
      exact ha
  all_goals exact fun g hg => absurd hg List.not_mem_nil

/-- Rows that a group takes one after the other: they carry its name, agree in the product, and in the remote
id unless the group is stuck with an empty one. -/
structure Fits (g : GroupedSession) (rows : List GroupedSession) : Prop where
  name : ∀ r ∈ rows, r.instanceName = g.instanceName
  id : g.providerInstanceId = some "" ∨ ∀ a ∈ g :: rows, ∀ b ∈ g :: rows, truthy a.providerInstanceId = true →
    truthy b.providerInstanceId = true → a.providerInstanceId = b.providerInstanceId
  product : ∀ a ∈ g :: rows, ∀ b ∈ g :: rows, ∀ p q, a.productId = some p → b.productId = some q → p = q

/-- A group takes such rows without a clash, before whatever groups come after it. -/
theorem Fits.collect (h : Fits g rows) (tail : List GroupedSession) :
    ∃ g', sessionGrouping.collect rows (g :: tail) false = (g' :: tail, false) ∧
      g'.instanceName = g.instanceName ∧
      (∀ x, g'.providerInstanceId = some x → ∃ r ∈ g :: rows, r.providerInstanceId = some x) ∧
      (∀ p, g'.productId = some p → ∃ r ∈ g :: rows, r.productId = some p) ∧
      (g.providerInstanceId ≠ none → g'.providerInstanceId = g.providerInstanceId) := by
  induction rows generalizing g with
  | nil =>
    exact ⟨g, rfl, rfl, fun x hx => ⟨g, List.mem_cons_self, hx⟩, fun p hp => ⟨g, List.mem_cons_self, hp⟩,
      fun _ => rfl⟩
  | cons a rows ih =>
    have hmema : a ∈ g :: a :: rows := List.mem_cons_of_mem _ List.mem_cons_self
    have hname : g.instanceName = a.instanceName := (h.name a List.mem_cons_self).symm
    have hjoins : sessionGrouping.joins g a = true := joins_iff.mpr (Or.inl hname)
    have hagree : sessionGrouping.clashes g a = false := by
      refine agree_of hname (fun hg ha => ?_) (h.product g List.mem_cons_self a hmema)
      rcases h.id with hempty | hsame
      · rw [hempty] at hg
        cases hg
      · exact hsame g List.mem_cons_self a hmema hg ha
    have hid : ∀ x, (sessionGrouping.merge g a).providerInstanceId = some x →
        ∃ r ∈ g :: a :: rows, r.providerInstanceId = some x := by
      intro x hx
      rcases Option.or_eq_some_iff.mp (merge_providerInstanceId.symm.trans hx) with hx | ⟨-, hx⟩
      · exact ⟨g, List.mem_cons_self, hx⟩
      · exact ⟨a, hmema, hx⟩
    have hproduct : ∀ p, (sessionGrouping.merge g a).productId = some p →
        ∃ r ∈ g :: a :: rows, r.productId = some p := by
      intro p hp
      rcases Option.or_eq_some_iff.mp (merge_productId.symm.trans hp) with hp | ⟨-, hp⟩
      · exact ⟨g, List.mem_cons_self, hp⟩
      · exact ⟨a, hmema, hp⟩
    have hrest : Fits (sessionGrouping.merge g a) rows := by
      refine ⟨fun r hr => h.name r (List.mem_cons_of_mem _ hr), ?_, fun b hb c hc p q hp hq => ?_⟩
      · rcases h.id with hempty | hsame
        · left
          rw [merge_known (by rw [hempty]; exact Option.some_ne_none _)]
          exact hempty
        · right
          intro b hb c hc htb htc
          have hfrom : ∀ d ∈ sessionGrouping.merge g a :: rows, truthy d.providerInstanceId = true →
              ∃ r ∈ g :: a :: rows, r.providerInstanceId = d.providerInstanceId := by
            intro d hd ht
            rcases List.mem_cons.mp hd with rfl | hd
            · obtain ⟨x, hx⟩ := Option.ne_none_iff_exists'.mp (ne_none_of_truthy ht)
              rw [hx]
              exact hid x hx
            · exact ⟨d, List.mem_cons_of_mem _ (List.mem_cons_of_mem _ hd), rfl⟩
          obtain ⟨r, hr, hrb⟩ := hfrom b hb htb
          obtain ⟨r', hr', hrc⟩ := hfrom c hc htc
          rw [← hrb, ← hrc]
          exact hsame r hr r' hr' (hrb ▸ htb) (hrc ▸ htc)
      · have hfrom : ∀ d ∈ sessionGrouping.merge g a :: rows, ∀ p, d.productId = some p →
            ∃ r ∈ g :: a :: rows, r.productId = some p := by
          intro d hd p hp
          rcases List.mem_cons.mp hd with rfl | hd
          · exact hproduct p hp
          · exact ⟨d, List.mem_cons_of_mem _ (List.mem_cons_of_mem _ hd), hp⟩
        obtain ⟨r, hr, hrp⟩ := hfrom b hb p hp
        obtain ⟨r', hr', hrq⟩ := hfrom c hc q hq
        exact h.product r hr r' hr' p q hrp hrq
    obtain ⟨g', hcollect, hname', hid', hproduct', hknown⟩ := ih hrest
    refine ⟨g', ?_, hname', fun x hx => ?_, fun p hp => ?_, fun hne => ?_⟩
    · rw [Grouping.collect_cons]
      simpa [Grouping.place, hjoins, hagree] using hcollect
    · obtain ⟨r, hr, hrx⟩ := hid' x hx
      rcases List.mem_cons.mp hr with rfl | hr
      · exact hid x hrx
      · exact ⟨r, List.mem_cons_of_mem _ (List.mem_cons_of_mem _ hr), hrx⟩
    · obtain ⟨r, hr, hrp⟩ := hproduct' p hp
      rcases List.mem_cons.mp hr with rfl | hr
      · exact hproduct p hrp
      · exact ⟨r, List.mem_cons_of_mem _ (List.mem_cons_of_mem _ hr), hrp⟩
    · rw [hknown (by rw [merge_known hne]; exact hne), merge_known hne]

/-- The rows of one name in an order that hides what can be hidden: those with an empty remote id first, then
those without one; a group they open has none that another row could share. -/
theorem exists_opening {own : List GroupedSession} {n : String} (hname : ∀ r ∈ own, r.instanceName = n)
    (hproduct : ∀ a ∈ own, ∀ b ∈ own, ∀ p q, a.productId = some p → b.productId = some q → p = q)
    (hid : ∀ a ∈ own, ∀ b ∈ own, truthy a.providerInstanceId = true → truthy b.providerInstanceId = true →
      a.providerInstanceId ≠ b.providerInstanceId → ∃ r ∈ own, r.providerInstanceId = some "")
    (hwithout : ∃ r ∈ own, truthy r.providerInstanceId = false) :
    ∃ opening rest g, (opening ++ rest).Perm own ∧
      sessionGrouping.collect opening [] false = ([g], false) ∧ g.instanceName = n ∧
      truthy g.providerInstanceId = false ∧ Fits g rest := by
  have hfalsy : ∀ {x : Option String}, truthy x = false ↔ x = some "" ∨ x = none := by
    intro x
    cases x <;> simp [truthy]
  let empties := own.filter fun r => decide (r.providerInstanceId = some "")
  let others := own.filter fun r => !decide (r.providerInstanceId = some "")
  let blanks := others.filter fun r => !truthy r.providerInstanceId
  let rest := others.filter fun r => truthy r.providerInstanceId
  have hsplit : (empties ++ blanks ++ rest).Perm own := by
    have hothers : (blanks ++ rest).Perm others :=
      List.perm_append_comm.trans (List.filter_append_perm (fun r => truthy r.providerInstanceId) others)
    rw [List.append_assoc]
    exact (List.Perm.append_left empties hothers).trans (List.filter_append_perm _ own)
  have hopening : ∀ r ∈ empties ++ blanks, r ∈ own ∧ truthy r.providerInstanceId = false := by
    intro r hr
    rcases List.mem_append.mp hr with hr | hr
    · obtain ⟨hmem, hempty⟩ := List.mem_filter.mp hr
      exact ⟨hmem, hfalsy.mpr (Or.inl (of_decide_eq_true hempty))⟩
    · obtain ⟨hmem, hblank⟩ := List.mem_filter.mp hr
      exact ⟨(List.mem_filter.mp hmem).1, by simpa using hblank⟩
  have hrest : ∀ r ∈ rest, r ∈ own := fun r hr => (List.mem_filter.mp (List.mem_filter.mp hr).1).1
  obtain ⟨r₀, hr₀, hwithout₀⟩ := hwithout
  have hne : empties ++ blanks ≠ [] := by
    refine List.ne_nil_of_mem (a := r₀) ?_
    rcases List.mem_append.mp (hsplit.mem_iff.mpr hr₀) with hr | hr
    · exact hr
    · have htruthy := (List.mem_filter.mp hr).2
      rw [hwithout₀] at htruthy
      cases htruthy
  obtain ⟨a, more, hcons⟩ := List.exists_cons_of_ne_nil hne
  rw [hcons] at hopening
  have hfits : Fits a more := by
    refine ⟨fun r hr => ?_, Or.inr fun b hb c hc htb => ?_, fun b hb c hc => ?_⟩
    · exact (hname r (hopening r (List.mem_cons_of_mem _ hr)).1).trans
        (hname a (hopening a List.mem_cons_self).1).symm
    · rw [(hopening b hb).2] at htb
      cases htb
    · exact hproduct b (hopening b hb).1 c (hopening c hc).1
  obtain ⟨g, hcollect, hgname, hgid, hgproduct, hgknown⟩ := hfits.collect []
  have hgfalsy : truthy g.providerInstanceId = false := by
    cases hx : g.providerInstanceId with
    | none => rfl
    | some x =>
      obtain ⟨r, hr, hrx⟩ := hgid x hx
      rw [← hrx]
      exact (hopening r hr).2
  have hstuck : (∃ r ∈ own, r.providerInstanceId = some "") → g.providerInstanceId = some "" := by
    rintro ⟨r, hr, hempty⟩
    have hmem : r ∈ empties := List.mem_filter.mpr ⟨hr, decide_eq_true hempty⟩
    obtain ⟨b, emptied, hempties⟩ := List.exists_cons_of_ne_nil (List.ne_nil_of_mem hmem)
    have hfirst : a ∈ empties := by
      rw [hempties, List.cons_append] at hcons
      obtain ⟨rfl, -⟩ := List.cons.inj hcons
      rw [hempties]
      exact List.mem_cons_self
    have ha : a.providerInstanceId = some "" := of_decide_eq_true (List.mem_filter.mp hfirst).2
    rw [hgknown (by rw [ha]; exact Option.some_ne_none _), ha]
  refine ⟨a :: more, rest, g, ?_, ?_, hgname.trans (hname a (hopening a List.mem_cons_self).1), hgfalsy, ?_⟩
  · rw [← hcons]
    exact hsplit
  · rw [Grouping.collect_cons]
    exact hcollect
  · refine ⟨fun r hr => ?_, ?_, ?_⟩
    · exact (hname r (hrest r hr)).trans (hgname.trans (hname a (hopening a List.mem_cons_self).1)).symm
    · by_cases hempty : ∃ r ∈ own, r.providerInstanceId = some ""
      · exact Or.inl (hstuck hempty)
      · right
        intro b hb c hc htb htc
        rcases List.mem_cons.mp hb with rfl | hb
        · rw [hgfalsy] at htb
          cases htb
        · rcases List.mem_cons.mp hc with rfl | hc
          · rw [hgfalsy] at htc
            cases htc
          · by_contra hdiffer
            exact hempty (hid b (hrest b hb) c (hrest c hc) htb htc hdiffer)
    · have hfrom : ∀ d ∈ g :: rest, ∀ p, d.productId = some p → ∃ r ∈ own, r.productId = some p := by
        intro d hd p hp
        rcases List.mem_cons.mp hd with rfl | hd
        · obtain ⟨r, hr, hrp⟩ := hgproduct p hp
          exact ⟨r, (hopening r hr).1, hrp⟩
        · exact ⟨d, hrest d hd, hp⟩
      intro b hb c hc p q hp hq
      obtain ⟨r, hr, hrp⟩ := hfrom b hb p hp
      obtain ⟨r', hr', hrq⟩ := hfrom c hc q hq
      exact hproduct r hr r' hr' p q hrp hrq

/-- Where no conflict shows in every order, there is an order in which none shows: the rows of a name that has
one without a remote id are met around all the others. -/
theorem exists_order (h : ¬ShowsConflict rows) :
    ∃ order, order.Perm rows ∧ (sessionGrouping.collect order [] false).2 = false := by
  induction hlength : rows.length using Nat.strong_induction_on generalizing rows with
  | _ length ih =>
    rw [not_showsConflict_iff] at h
    by_cases hall : ∀ r ∈ rows, truthy r.providerInstanceId = true
    · refine ⟨rows, List.Perm.refl _, agree_of_not_conflicting ?_⟩
      rintro ⟨a, ha, b, hb, hconflict⟩
      by_cases hname : a.instanceName = b.instanceName
      · rcases (conflicts_of_name hname).mp hconflict with ⟨-, -, hne⟩ | ⟨hp, hq, hne⟩
        · obtain ⟨r, hr, -, hempty⟩ := ((h a ha b hb).1 hname).2 (hall a ha) (hall b hb) hne
          have htruthy := hall r hr
          rw [hempty] at htruthy
          cases htruthy
        · obtain ⟨p, hp⟩ := Option.ne_none_iff_exists'.mp hp
          obtain ⟨q, hq⟩ := Option.ne_none_iff_exists'.mp hq
          rw [hp, hq, ((h a ha b hb).1 hname).1 p q hp hq] at hne
          exact hne rfl
      · obtain ⟨-, hid⟩ := (conflicts_of_ne hname).mp hconflict
        obtain ⟨r, hr, -, hwithout⟩ := (h a ha b hb).2 hname (hall a ha) hid
        rw [hall r hr] at hwithout
        cases hwithout
    · push Not at hall
      obtain ⟨r₀, hr₀, hwithout⟩ := hall
      let own := rows.filter fun r => decide (r.instanceName = r₀.instanceName)
      let others := rows.filter fun r => !decide (r.instanceName = r₀.instanceName)
      have hown : ∀ r, r ∈ own ↔ r ∈ rows ∧ r.instanceName = r₀.instanceName := by simp [own]
      have hothers : ∀ r, r ∈ others ↔ r ∈ rows ∧ r.instanceName ≠ r₀.instanceName := by simp [others]
      have hless : others.length < length := by
        rw [← hlength]
        exact List.length_filter_lt_length_iff_exists.mpr ⟨r₀, hr₀, by simp⟩
      have hshows : ¬ShowsConflict others := by
        rw [not_showsConflict_iff]
        intro a ha b hb
        rw [hothers] at ha hb
        obtain ⟨hsame, hdiffer⟩ := h a ha.1 b hb.1
        refine ⟨fun hname => ⟨(hsame hname).1, fun hta htb hne => ?_⟩, fun hname hta hid => ?_⟩
        · obtain ⟨r, hr, hrname, hrid⟩ := (hsame hname).2 hta htb hne
          exact ⟨r, (hothers r).mpr ⟨hr, hrname ▸ ha.2⟩, hrname, hrid⟩
        · obtain ⟨r, hr, hrname, hrid⟩ := hdiffer hname hta hid
          refine ⟨r, (hothers r).mpr ⟨hr, ?_⟩, hrname, hrid⟩
          rcases hrname with hrname | hrname
          · exact hrname ▸ ha.2
          · exact hrname ▸ hb.2
      obtain ⟨order, hperm, hagree⟩ := ih others.length hless hshows rfl
      obtain ⟨opening, rest, g, hsplit, hopened, hgname, hgid, hfits⟩ :=
        @exists_opening own r₀.instanceName (fun r hr => ((hown r).mp hr).2)
          (fun a ha b hb => ((h a ((hown a).mp ha).1 b ((hown b).mp hb).1).1
            (((hown a).mp ha).2.trans ((hown b).mp hb).2.symm)).1)
          (fun a ha b hb hta htb hne => by
            obtain ⟨r, hr, hrname, hrid⟩ := ((h a ((hown a).mp ha).1 b ((hown b).mp hb).1).1
              (((hown a).mp ha).2.trans ((hown b).mp hb).2.symm)).2 hta htb hne
            exact ⟨r, (hown r).mpr ⟨hr, hrname.trans ((hown a).mp ha).2⟩, hrid⟩)
          ⟨r₀, (hown r₀).mpr ⟨hr₀, rfl⟩, by simpa using hwithout⟩
      refine ⟨opening ++ (order ++ rest), ?_, ?_⟩
      · have hmiddle : (opening ++ (order ++ rest)).Perm (opening ++ rest ++ order) := by
          rw [List.append_assoc]
          exact List.Perm.append_left opening List.perm_append_comm
        exact hmiddle.trans ((hsplit.append hperm).trans (List.filter_append_perm _ rows))
      · have hpass : ∀ a ∈ order, ∀ g' ∈ [g], sessionGrouping.joins g' a = false := by
          intro a ha g' hg'
          rw [List.mem_singleton.mp hg']
          by_contra hjoins
          rcases joins_iff.mp (Bool.not_eq_false _ ▸ hjoins) with hname | ⟨htruthy, hid⟩
          · exact ((hothers a).mp (hperm.mem_iff.mp ha)).2 (hname.symm.trans hgname)
          · rw [← hid, hgid] at htruthy
            cases htruthy
        have hmet : sessionGrouping.collect order [g] false =
            (g :: (sessionGrouping.collect order [] false).1, false) := by
          have hpassed := sessionGrouping.collect_pass hpass [] false
          rw [List.append_nil, hagree] at hpassed
          exact hpassed
        obtain ⟨g', hrest, -⟩ := hfits.collect (sessionGrouping.collect order [] false).1
        rw [Grouping.collect_append, hopened, Grouping.collect_append, hmet, hrest]

end Orders

section Counts

variable {rows order : List GroupedSession} {counts : List (Uuid × Nat)} {products : List Uuid} {p q : Uuid}

/-- Raising the count of one product raises what is found under it. -/
theorem lookup_raised :
    (counts.map fun entry => if entry.1 = q then (entry.1, entry.2 + 1) else entry).lookup p =
    (counts.lookup p).map fun n => if p = q then n + 1 else n := by
  induction counts with
  | nil => rfl
  | cons entry counts ih =>
    obtain ⟨k, n⟩ := entry
    by_cases hk : k = q <;> by_cases hp : p = k <;> simp [List.lookup_cons, hk, hp, ih] <;> grind

/-- A product is found where it is counted. -/
theorem lookup_eq_none_iff : counts.lookup q = none ↔ ¬counts.any (fun entry => entry.1 = q) = true := by
  rw [List.lookup_eq_none_iff, List.any_eq_true]
  simp only [bne_iff_ne, ne_eq, decide_eq_true_eq, not_exists, not_and]
  exact forall₂_congr fun entry _ => not_congr eq_comm

/-- Counting one more session of a product adds one to its count, and nothing to the others. -/
theorem lookup_countProduct : ((countProduct counts q).lookup p).getD 0 =
    (counts.lookup p).getD 0 + if q = p then 1 else 0 := by
  unfold countProduct
  split
  · next hany =>
    rw [lookup_raised]
    by_cases hp : q = p
    · subst hp
      obtain ⟨n, hn⟩ := Option.ne_none_iff_exists'.mp fun hnone => lookup_eq_none_iff.mp hnone hany
      simp [hn]
    · cases counts.lookup p <;> simp [hp, Ne.symm hp]
  · next hnone =>
    by_cases hp : q = p
    · subst hp
      simp [List.lookup_append, lookup_eq_none_iff.mpr hnone]
    · have hlast : [(q, 1)].lookup p = none := by simp [Ne.symm hp]
      rw [List.lookup_append, hlast, Option.or_none, if_neg hp, Nat.add_zero]

/-- Counting sessions counts how often each product occurs. -/
theorem lookup_foldl_countProduct : ((products.foldl countProduct counts).lookup p).getD 0 =
    (counts.lookup p).getD 0 + products.count p := by
  induction products generalizing counts with
  | nil => rfl
  | cons q products ih =>
    rw [List.foldl_cons, ih, lookup_countProduct, List.count_cons]
    simp only [beq_iff_eq]
    omega

/-- Rows met without a clash are counted right. -/
theorem rightVerdict_of_not_conflicting (hperm : order.Perm rows) (hnone : ¬Conflicting rows) :
    RightVerdict rows order := by
  have hagree : (occupancyOf order).ambiguous = false :=
    agree_of_not_conflicting ((conflicting_perm hperm).not.mpr hnone)
  have hsum := summarizes_collect hagree
  refine ⟨⟨fun hclash => ?_, fun h => absurd h hnone⟩, fun _ => ?_, fun _ => ?_, fun _ p => ?_⟩
  · rw [hagree] at hclash
    cases hclash
  · have hnames : (order.map (·.instanceName)).toFinset = (rows.map (·.instanceName)).toFinset :=
      List.toFinset_eq_of_perm _ _ (hperm.map _)
    rw [← hnames]
    exact sessionGrouping.length_collect_eq order false hagree
  · rw [List.Nodup, List.pairwise_filterMap]
    have hnames := List.pairwise_map.mp hsum.distinct
    refine hnames.imp_of_mem fun {g g'} hg hg' hne x hx x' hx' heq => ?_
    subst heq
    obtain ⟨r, hr, hrname, hrid⟩ := hsum.id g hg x hx
    obtain ⟨r', hr', hrname', hrid'⟩ := hsum.id g' hg' x hx'
    refine hnone ⟨r, hperm.mem_iff.mp hr, r', hperm.mem_iff.mp hr', (conflicts_of_ne ?_).mpr ⟨?_, ?_⟩⟩
    · rw [hrname, hrname']
      exact hne
    · rw [hrid]
      exact Option.some_ne_none x
    · rw [hrid, hrid']
  · have hgroups : (((sessionGrouping.collect order [] false).1.filter fun g => g.productId = some p).map
        (·.instanceName)).Nodup :=
      hsum.distinct.sublist (List.filter_sublist.map _)
    have hnames : (((sessionGrouping.collect order [] false).1.filter fun g => g.productId = some p).map
        (·.instanceName)).toFinset =
        ((rows.filter fun r => r.productId = some p).map (·.instanceName)).toFinset := by
      ext n
      simp only [List.mem_toFinset, List.mem_map, List.mem_filter, decide_eq_true_eq]
      constructor
      · rintro ⟨g, ⟨hg, hp⟩, rfl⟩
        obtain ⟨r, hr, hrname, hrp⟩ := hsum.product g hg p hp
        exact ⟨r, ⟨hperm.mem_iff.mp hr, hrp⟩, hrname⟩
      · rintro ⟨r, ⟨hr, hp⟩, rfl⟩
        obtain ⟨g, hg, hgname, hproduct, -⟩ := hsum.row r (hperm.mem_iff.mpr hr)
        exact ⟨g, ⟨hg, hproduct p hp⟩, hgname⟩
    have hcount : (occupancyOf order).countOf p =
        ((sessionGrouping.collect order [] false).1.filter fun g => g.productId = some p).length := by
      have hempty : (([] : List (Uuid × Nat)).lookup p).getD 0 = 0 := rfl
      rw [Occupancy.countOf, occupancyOf, lookup_foldl_countProduct, hempty, Nat.zero_add, List.count,
        List.countP_filterMap, ← List.countP_eq_length_filter]
      refine List.countP_congr fun g _ => ?_
      cases g.productId <;> simp
    rw [hcount, ← hnames, List.toFinset_card_of_nodup hgroups, List.length_map]

/-- The verdict of an occupancy count is right in whatever order its rows are met, if and only if they do not
conflict or a conflict shows in every order. -/
theorem occupancy_verdict_iff (remote : List RemoteSession) (instances reservations : List OccupiedSession)
    (absentInstanceIds : List Uuid) :
    (∀ order, order.Perm (countedSessions remote instances reservations absentInstanceIds) →
      RightVerdict (countedSessions remote instances reservations absentInstanceIds) order) ↔
    ¬Conflicting (countedSessions remote instances reservations absentInstanceIds) ∨
      ShowsConflict (countedSessions remote instances reservations absentInstanceIds) := by
  generalize countedSessions remote instances reservations absentInstanceIds = rows
  constructor
  · intro hright
    by_contra hneither
    push Not at hneither
    obtain ⟨order, hperm, hagree⟩ := exists_order hneither.2
    have hambiguous := (hright order hperm).ambiguous.mpr hneither.1
    rw [occupancyOf, hagree] at hambiguous
    cases hambiguous
  · rintro (hnone | hshows) order hperm
    · exact rightVerdict_of_not_conflicting hperm hnone
    · have hclash : (occupancyOf order).ambiguous = true := by
        rw [← Bool.not_eq_false]
        exact fun hagree => not_showsConflict_of_agree hagree ((showsConflict_perm hperm).mpr hshows)
      have habsurd : (occupancyOf order).ambiguous = false → False := fun hagree => by
        rw [hclash] at hagree
        cases hagree
      exact ⟨⟨fun _ => hshows.conflicting, fun _ => hclash⟩, fun h => absurd h habsurd,
        fun h => absurd h habsurd, fun h => absurd h habsurd⟩

/-- Of two sessions a provider reports, one without an id, and an instance of that name with the id of the
other: the verdict depends on which is reported first, and misses the conflict one way. -/
theorem occupancy_misses_conflict :
    let blank : RemoteSession := ⟨"alice", none, none⟩
    let known : RemoteSession := ⟨"bob", some "remote", none⟩
    let item : OccupiedSession := ⟨⟨"session", by decide⟩, ⟨"tenant", by decide⟩, "alice", some "remote"⟩
    (occupancy [blank, known] [item] [] []).ambiguous = false ∧
      (occupancy [known, blank] [item] [] []).ambiguous = true ∧
      Conflicting (countedSessions [blank, known] [item] [] []) := by
  refine ⟨by decide, by decide, ?_⟩
  exact ⟨⟨"bob", some "remote", none⟩, by decide, ⟨"alice", some "remote", some ⟨"tenant", by decide⟩⟩,
    by decide, by decide⟩

end Counts

end ConnectHub
