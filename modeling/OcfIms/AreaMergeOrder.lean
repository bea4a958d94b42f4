import OcfIms.AreaMerge

/-!
# Two merges

What two merges leave, where nothing fails from outside, is what they leave one after the other in
some order, as long as each finds what it needs when it opens its transaction. Two that name one
duplicate may both succeed, though; one after the other, the second is told that there is no such
area.
-/

namespace OcfIms

open TxnLib RunLib

section Steps

-- Strings are not to be evaluated while programs are compared.
attribute [local irreducible] trimSpace

variable {sortKey : String → String} {env : AreaEnv} {s : AreaService} {w : AreaWorld} {db : DB}

/-! ## What a merge comes to -/

/-- What a merge makes of a database, alone on it; nothing if it is refused. -/
def mergeOutcome (sortKey : String → String) (ctx : Option IMSClaims)
    (req : MarkAreaDuplicateRequest) (db : DB) : Option DB :=
  if mergeAllowed ctx req ∧ mergeRefusal (db.areas sortKey req.eventID) req.areaSlug
      req.canonicalSlug = none then
    (mergeTx req.eventID req.areaSlug req.canonicalSlug db).toOption
  else none

/-- The merge has its list to read. -/
def AtFetch (s : AreaService) (ctx : Option IMSClaims) (req : MarkAreaDuplicateRequest)
    (x : AreaProg) : Prop :=
  mergeAllowed ctx req = true ∧ x = (fetchAreas req.eventID >>= afterFetch s req).prog

theorem answersSome_of_widen {β : Type} {o : Op β} {b : β}
    (h : answersSome (areaDB sortKey) β (o.widen : AreaOp β) b) : answersSome imsDB β o b := by
  cases o with
  | read c q =>
      cases c with
      | pool => exact h
      | txn => trivial
  | _ => trivial

/-- A read that cannot fail. -/
theorem every_select_some {ε α : Type} {E : ε → Prop} {Q : α → Prop} {q : Read α}
    {err : SqlErr → ε} (hE : ∀ db x, q.eval db = .error x → E (err x))
    (hQ : ∀ db a, q.eval db = .ok a → Q a) :
    (select .pool q err).Every (answersSome imsDB) idle E Q :=
  Call.every_mapErr (Call.every_attempt trivial (fun x ⟨db, h⟩ => hE db x h)
    fun a ⟨db, h⟩ => hQ db a h)

theorem every_eventPermissions_some (e : Int) (claims : IMSClaims) :
    (eventPermissions (some e) claims).Every (answersSome imsDB) idle (fun _ => False)
      fun perms => perms.2 = globalPermissions claims.handle claims.admin := by
  have hrow : (participationAt e claims).Every (answersSome imsDB) idle (fun _ => False)
      fun _ => True := by
    refine Call.every_bind (Q := fun r => ∀ x, r = .error x → x = .noRows)
      ?_ fun r hr => ?_
    · refine Call.Every.mono (Call.every_result (every_select_some (E := fun x => x = .noRows)
        (Q := fun _ => True) (fun db x hx => ?_) fun _ _ _ => trivial)) (fun _ _ _ h => h)
        (fun _ _ h => h) (fun _ h => h) fun r hr => ?_
      · rw [Read.eval] at hx
        cases hfind : db.personEvent.find? (claims.personID, e) with
        | none =>
            rw [hfind] at hx
            cases hx
            rfl
        | some pe =>
            rw [hfind] at hx
            cases hx
      · rintro x rfl
        exact hr
    · rcases r with x | pe
      · obtain rfl := hr x rfl
        exact Call.every_pure trivial
      · exact Call.every_pure trivial
  have hcrew : ∀ perms, (deriveCrewLeader e claims perms).Every (answersSome imsDB) idle
      (fun _ => False) fun _ => True := by
    intro perms
    refine Call.every_ite (fun _ => ?_) fun _ => Call.every_pure trivial
    refine Call.every_bind (every_select_some (Q := fun _ => True) (fun db x hx => by cases hx)
      fun _ _ _ => trivial) fun crews _ => ?_
    exact Call.every_ite (fun _ => Call.every_pure trivial) fun _ => Call.every_pure trivial
  refine Call.every_bind hrow fun p _ => ?_
  exact Call.every_bind (hcrew _) fun masks _ => Call.every_pure rfl

/-- Whether a caller administers areas depends on the caller alone. -/
theorem every_requireAreaAdmin_some (ctx : Option IMSClaims) (e : Int) :
    (requireAreaAdmin ctx e).Every (answersSome (areaDB sortKey)) idle
      (fun _ => (ctx.any fun claims => hasBit (globalPermissions claims.handle claims.admin)
        globalAdministrateAreas) = false)
      fun _ => (ctx.any fun claims => hasBit (globalPermissions claims.handle claims.admin)
        globalAdministrateAreas) = true := by
  cases ctx with
  | none => exact Call.every_throw rfl
  | some claims =>
      refine Call.every_bind (Q := fun r => r.2.2 = globalPermissions claims.handle claims.admin)
        ?_ fun r hr => ?_
      · refine Call.every_widen (A := answersSome imsDB) (P := idle) (fun β o ho => ?_)
          (fun β o b h => answersSome_of_widen h) ?_
        · cases o with
          | write c q => exact ho.elim
          | begin => exact ho.elim
          | _ => trivial
        · refine Call.every_bind (Q := fun c => c = claims) (Call.every_pure rfl) fun c hc => ?_
          rw [hc]
          refine Call.every_bind (Call.every_mapErr ?_) fun perms hperms => Call.every_pure hperms
          exact (every_eventPermissions_some e claims).mono (fun _ _ _ h => h) (fun _ _ h => h)
            (fun _ h => h.elim) fun _ h => h
      · obtain ⟨c, perms, glob⟩ := r
        obtain rfl : glob = globalPermissions claims.handle claims.admin := hr
        exact Call.every_ensure id id

theorem reaches_markAreaDuplicate (s : AreaService) (sortKey : String → String) (ctx : Option IMSClaims) (req : MarkAreaDuplicateRequest) :
    (markAreaDuplicate s ctx req).prog.Reaches (answersSome (areaDB sortKey)) (AtFetch s ctx req)
      fun r => AnswersError r ∧ mergeAllowed ctx req = false := by
  rw [markAreaDuplicate_eq]
  refine Call.reaches_bind (every_requireAreaAdmin_some _ _)
    (fun err h => ⟨⟨err, rfl⟩, by rw [mergeAllowed, h]; rfl⟩) fun _ hadmin => ?_
  refine Call.reaches_bind (E := fun _ => (req.canonicalSlug != "") = false)
    (R := fun _ => (req.canonicalSlug != "") = true) (Call.every_ensure id id)
    (fun err h => ⟨⟨err, rfl⟩, by rw [mergeAllowed, h, Bool.and_false]; rfl⟩) fun _ hcanon => ?_
  refine Call.reaches_bind (E := fun _ => (req.canonicalSlug != req.areaSlug) = false)
    (R := fun _ => (req.canonicalSlug != req.areaSlug) = true) (Call.every_ensure id id)
    (fun err h => ⟨⟨err, rfl⟩, by rw [mergeAllowed, h, Bool.and_false]⟩) fun _ hne => ?_
  exact Or.inl ⟨by rw [mergeAllowed, hadmin, hcanon, hne]; rfl, rfl⟩

/-- The merge goes on after reading its list from this database. -/
structure Checked (sortKey : String → String) (ctx : Option IMSClaims)
    (req : MarkAreaDuplicateRequest) (db : DB) : Prop where
  allowed : mergeAllowed ctx req = true
  accepted : mergeRefusal (db.areas sortKey req.eventID) req.areaSlug req.canonicalSlug = none

theorem canonical_ne {ctx : Option IMSClaims} {req : MarkAreaDuplicateRequest}
    (h : mergeAllowed ctx req = true) : req.canonicalSlug ≠ req.areaSlug := by
  rw [mergeAllowed, Bool.and_eq_true] at h
  simpa using h.2

theorem mergeOutcome_of_checked {ctx : Option IMSClaims} {req : MarkAreaDuplicateRequest}
    (h : Checked sortKey ctx req db) : mergeOutcome sortKey ctx req db =
      (mergeTx req.eventID req.areaSlug req.canonicalSlug db).toOption :=
  if_pos ⟨h.allowed, h.accepted⟩

theorem mergeOutcome_eq_some {ctx : Option IMSClaims} {req : MarkAreaDuplicateRequest} {db' : DB} :
    mergeOutcome sortKey ctx req db = some db' ↔ Checked sortKey ctx req db ∧
      mergeTx req.eventID req.areaSlug req.canonicalSlug db = .ok db' := by
  rw [mergeOutcome]
  split
  · rename_i h
    have hchecked : Checked sortKey ctx req db := ⟨h.1, h.2⟩
    rw [and_iff_right hchecked]
    cases mergeTx req.eventID req.areaSlug req.canonicalSlug db <;> simp [Except.toOption]
  · rename_i h
    exact ⟨fun h' => (nomatch h'), fun h' => (h ⟨h'.1.allowed, h'.1.accepted⟩).elim⟩

/-- What is refused whatever the list is refused on it. -/
theorem mergeOutcome_of_error {ctx : Option IMSClaims} {req : MarkAreaDuplicateRequest}
    {cause : SqlErr} (h : mergeTx req.eventID req.areaSlug req.canonicalSlug db = .error cause) :
    mergeOutcome sortKey ctx req db = none := by
  cases hout : mergeOutcome sortKey ctx req db with
  | none => rfl
  | some db' =>
      rw [(mergeOutcome_eq_some.mp hout).2] at h
      cases h

/-- Where nothing fails from outside, the transaction decides. -/
theorem burst_merging_quiet (sortKey : String → String) (s : AreaService) (hq : env.Quiet) {req : MarkAreaDuplicateRequest}
    (hne : req.canonicalSlug ≠ req.areaSlug) (hw : w.txn = none) (retries : Nat) :
    let next := (merging s req retries).burst (areaDB sortKey) env w
    (∃ err cause, mergeTx req.eventID req.areaSlug req.canonicalSlug w.db = .error cause ∧
      next.1 = .ret (.error err) ∧ next.2.db = w.db) ∨
    mergeTx req.eventID req.areaSlug req.canonicalSlug w.db = .ok next.2.db ∧
      next.1 = (invalidateAreaCaches req.eventID).prog := by
  have hopen : ({ w.tock with txn := some w.db } : AreaWorld).txn = some w.db := rfl
  obtain ⟨r, w₁, hrun, hbody⟩ :=
    run_mergeArea sortKey env req.eventID req.areaSlug req.canonicalSlug hopen
  have hburst := @burst_runInTx _ _ _ _ _ _ _ _ _ (areaDB sortKey) env w _ (fun _ _ h => h)
    (fun err => { wire := ⟨.unknown, s.errorText err⟩, cause := some err }) CausedError.retryable _ _
    _ (writesIn_mergeArea req.eventID req.areaSlug req.canonicalSlug) (afterMerge req) hw retries
  rcases hburst with ⟨err, hfault | hfails, hdb, hnext⟩ | ⟨a, w₂, hrun', htxn, hnext⟩
  · obtain ⟨n, f, hf, -⟩ := hfault
    exact nomatch (hq n).symm.trans hf
  · rw [hrun] at hfails
    rcases hbody with ⟨db', -, hok, -⟩ | ⟨err', cause, herr, hcause, hfault | htx⟩
    · exact nomatch hfails.symm.trans hok
    · obtain ⟨n, f, hf⟩ := hfault
      exact nomatch (hq n).symm.trans hf
    · obtain rfl : err = err' := Except.error.inj (hfails.symm.trans herr)
      refine Or.inl ⟨err.wire, cause, htx, ?_, hdb⟩
      rcases hnext with hret | ⟨hretry, -⟩
      · exact hret
      · have hfinal : err.retryable = false := by
          rw [CausedError.retryable, hcause]
          rcases mergeTx_error hne htx with rfl | rfl <;> rfl
        rw [hfinal] at hretry
        cases hretry
  · rw [hrun] at hrun'
    cases hrun'
    rcases hbody with ⟨db', hmerge, -, htxn'⟩ | ⟨err, cause, hr, -⟩
    · obtain rfl := Option.some.inj (htxn.symm.trans htxn')
      exact Or.inr ⟨hmerge, hnext⟩
    · cases hr

/-- The list is read, and decides. -/
theorem moves_atFetch (sortKey : String → String) (hq : env.Quiet) {ctx : Option IMSClaims} {req : MarkAreaDuplicateRequest}
    {x : AreaProg} (h : AtFetch s ctx req x) (hw : w.txn = none) :
    x.Moves (areaDB sortKey) env w (afterFetch s req (w.db.areas sortKey req.eventID)).prog
      w.tock := by
  obtain ⟨-, rfl⟩ := h
  obtain ⟨r, hmoves, hr⟩ := moves_read_pool (areaDB sortKey) env (Sum.inr (AreaRead.areas req.eventID))
    (Call.andThen (internalError "failed to fetch areas") (afterFetch s req)) hw
  rcases hr with rfl | ⟨n, hf, -⟩
  · rw [fetchAreas, areaSelect, Call.prog_mapErr_bind]
    exact hmoves
  · cases (hq _).symm.trans hf

/-- Alone on the database, a merge comes to its outcome. -/
theorem run_markAreaDuplicate (s : AreaService) (sortKey : String → String) (hq : env.Quiet) (ctx : Option IMSClaims)
    (req : MarkAreaDuplicateRequest) (hw : w.txn = none) :
    let done := (markAreaDuplicate s ctx req).run (areaDB sortKey) env w
    (AnswersError done.1 ∧ done.2.db = w.db ∧ mergeOutcome sortKey ctx req w.db = none) ∨
    done.1 = .ok () ∧ mergeOutcome sortKey ctx req w.db = some done.2.db := by
  rw [Call.run]
  rcases (reaches_markAreaDuplicate s sortKey ctx req).run hq hw with
    ⟨⟨hrefused, hnot⟩, hdb⟩ | ⟨x, w₁, hfetch, hrun, hdb, htxn⟩
  · refine Or.inl ⟨hrefused, hdb, if_neg fun h => ?_⟩
    rw [hnot] at h
    exact Bool.false_ne_true h.1
  · have hmoves := (moves_atFetch sortKey hq hfetch htxn).run
    rw [hrun, hmoves, prog_afterFetch, ← hdb]
    cases hrefusal : mergeRefusal (w₁.db.areas sortKey req.eventID) req.areaSlug
        req.canonicalSlug with
    | some err =>
        refine Or.inl ⟨⟨err, rfl⟩, rfl, if_neg fun h => ?_⟩
        cases h.2.symm.trans hrefusal
    | none =>
        have hchecked : Checked sortKey ctx req w₁.db := ⟨hfetch.1, hrefusal⟩
        have htock : w₁.tock.txn = none := htxn
        have hrun₁ := @run_burst _ _ _ _ _ _ _ (areaDB sortKey) env (merging s req 3) w₁.tock
        obtain ⟨hres, hend⟩ := hrun₁
        dsimp only
        rw [← hres, ← hend]
        rcases burst_merging_quiet sortKey s hq (canonical_ne hfetch.1) htock 3
          with ⟨err, cause, htx, hnext, hdb'⟩ | ⟨hmerge, hnext⟩
        · rw [hnext, Prog.run_ret]
          exact Or.inl ⟨⟨err, rfl⟩, hdb', mergeOutcome_of_error htx⟩
        · rw [hnext]
          have hclosed : ((merging s req 3).burst (areaDB sortKey) env w₁.tock).2.txn = none :=
            burst_txn _ _
          have hidle := @run_idle _ _ _ _ _ _ _ (areaDB sortKey) env _ _ _
            (idle_invalidateAreaCaches req.eventID) hclosed
          obtain ⟨hok, hdb'⟩ := hidle
          refine Or.inr ⟨?_, ?_⟩
          · generalize (Prog.run _ _ _ _).1 = r at hok
            cases r with
            | ok u => rfl
            | error err => exact hok.elim
          · rw [hdb', mergeOutcome_of_checked hchecked]
            exact congrArg Except.toOption hmerge

/-! ## Two merges at a time -/

/-- Where one merge stands that has not been carried out, in a run that has left the databases
`db₀` and `db`. -/
inductive MergePending (sortKey : String → String) (s : AreaService) (ctx : Option IMSClaims)
    (req : MarkAreaDuplicateRequest) (db₀ db : DB) (x : AreaProg) : Prop
  | reading (hx : x.Reaches (answersSome (areaDB sortKey)) (AtFetch s ctx req)
      fun r => AnswersError r ∧ mergeAllowed ctx req = false)
  | ready (n : Nat) (hx : x = merging s req n)
      (hchecked : Checked sortKey ctx req db₀ ∨ Checked sortKey ctx req db)
  | failed (err : ConnectError) (hx : x = .ret (.error err))
      (hnone : mergeOutcome sortKey ctx req db₀ = none ∨ mergeOutcome sortKey ctx req db = none)

variable {ctx : Option IMSClaims} {req : MarkAreaDuplicateRequest} {db₀ db' : DB} {x : AreaProg}

/-- The other merge is carried out. -/
theorem MergePending.commit (h : MergePending sortKey s ctx req db₀ db₀ x) (db : DB) :
    MergePending sortKey s ctx req db₀ db x := by
  cases h with
  | reading hx => exact .reading hx
  | ready n hx hchecked => exact .ready n hx (Or.inl (hchecked.elim id id))
  | failed err hx hnone => exact .failed err hx (Or.inl (hnone.elim id id))

theorem Checked.ne (h : Checked sortKey ctx req db) : req.canonicalSlug ≠ req.areaSlug :=
  canonical_ne h.allowed

/-- A step of a merge that has not been carried out. -/
theorem MergePending.burst (hq : env.Quiet) (h : MergePending sortKey s ctx req db₀ w.db x)
    (hw : w.txn = none) :
    let next := x.burst (areaDB sortKey) env w
    (next.2.db = w.db ∧ MergePending sortKey s ctx req db₀ w.db next.1) ∨
    (Checked sortKey ctx req db₀ ∨ Checked sortKey ctx req w.db) ∧ x.opens = true ∧
      mergeTx req.eventID req.areaSlug req.canonicalSlug w.db = .ok next.2.db ∧
      next.1 = (invalidateAreaCaches req.eventID).prog := by
  cases h with
  | reading hx =>
      rcases hx.moves hq hw with ⟨r, rfl, hr⟩ | hfetch | ⟨x', w', hmoves, hx', hdb⟩
      · exact Or.inl ⟨rfl, .reading hr⟩
      · have hmoves := (moves_atFetch sortKey hq hfetch hw).burst
        rw [hmoves, prog_afterFetch]
        refine Or.inl ⟨rfl, ?_⟩
        cases hrefusal : mergeRefusal (w.db.areas sortKey req.eventID) req.areaSlug
            req.canonicalSlug with
        | some err =>
            exact .failed err rfl (Or.inr (if_neg fun h => nomatch h.2.symm.trans hrefusal))
        | none => exact .ready 3 rfl (Or.inr ⟨hfetch.1, hrefusal⟩)
      · rw [hmoves.burst]
        exact Or.inl ⟨hdb, .reading hx'⟩
  | ready n hx hchecked =>
      subst hx
      have hne : req.canonicalSlug ≠ req.areaSlug := hchecked.elim Checked.ne Checked.ne
      rcases burst_merging_quiet sortKey s hq hne hw n with
        ⟨err, cause, htx, hnext, hdb⟩ | ⟨hmerge, hnext⟩
      · exact Or.inl ⟨hdb, .failed err hnext (Or.inr (mergeOutcome_of_error htx))⟩
      · exact Or.inr ⟨hchecked, opens_merging req n, hmerge, hnext⟩
  | failed err hx hnone =>
      subst hx
      exact Or.inl ⟨rfl, .failed err rfl hnone⟩

/-- A merge that has answered without being carried out. -/
theorem MergePending.of_ret {r : Except ConnectError Unit}
    (h : MergePending sortKey s ctx req db₀ db (.ret r)) : AnswersError r ∧
      (mergeOutcome sortKey ctx req db₀ = none ∨ mergeOutcome sortKey ctx req db = none) := by
  cases h with
  | reading hx => exact ⟨hx.1, Or.inl (if_neg fun h => Bool.false_ne_true (hx.2.symm.trans h.1))⟩
  | ready n hx _ =>
      have hopens := opens_merging (s := s) req n
      rw [← hx] at hopens
      cases hopens
  | failed err hx hnone => exact ⟨⟨err, Prog.ret.inj hx⟩, hnone⟩

/-- How far two merges have come: neither is carried out, or one is, or both are, one after the
other. -/
inductive PairPhase (sortKey : String → String) (s : AreaService) (ctx : Bool → Option IMSClaims)
    (req : Bool → MarkAreaDuplicateRequest) (db₀ : DB) (sys : AreaSys Bool) : Prop
  | neither (hdb : sys.world.db = db₀)
      (hpending : ∀ b, MergePending sortKey s (ctx b) (req b) db₀ db₀ (sys.procs b))
  | one (b : Bool) (hfirst : mergeOutcome sortKey (ctx b) (req b) db₀ = some sys.world.db)
      (hcarried : Carried (sys.procs b))
      (hpending : MergePending sortKey s (ctx !b) (req !b) db₀ sys.world.db (sys.procs !b))
  | both (b : Bool) (db₁ : DB) (hfirst : mergeOutcome sortKey (ctx b) (req b) db₀ = some db₁)
      (hchecked : Checked sortKey (ctx !b) (req !b) db₀ ∨ Checked sortKey (ctx !b) (req !b) db₁)
      (hfinds : MergeFinds db₁ (req !b))
      (hsecond : mergeTx (req !b).eventID (req !b).areaSlug (req !b).canonicalSlug db₁ =
        .ok sys.world.db)
      (hcarried : ∀ c, Carried (sys.procs c))

variable {ctx : Bool → Option IMSClaims} {req : Bool → MarkAreaDuplicateRequest}
  {sys sys' : AreaSys Bool}

/-- A step of either merge. -/
theorem PairPhase.step (hq : env.Quiet) (h : PairPhase sortKey s ctx req db₀ sys)
    (htxn : sys.world.txn = none) {j : Bool} (hs : sys.turn (areaDB sortKey) env j = some sys')
    (hfinds : (sys.procs j).opens = true → MergeFinds sys.world.db (req j)) :
    PairPhase sortKey s ctx req db₀ sys' := by
  obtain ⟨hself, hother, hworld⟩ : sys'.procs j =
      ((sys.procs j).burst (areaDB sortKey) env sys.world).1 ∧
      (∀ c, c ≠ j → sys'.procs c = sys.procs c) ∧
      sys'.world.db = ((sys.procs j).burst (areaDB sortKey) env sys.world).2.db := by
    obtain ⟨-, rfl⟩ := turn_eq_some.mp hs
    exact ⟨Function.update_self _ _ _, fun c hc => Function.update_of_ne hc _ _, rfl⟩
  have hflip : ∀ c : Bool, (!c) ≠ c := fun c => by cases c <;> decide
  cases h with
  | neither hdb hpending =>
      subst hdb
      rcases (hpending j).burst hq htxn with ⟨hdb, hp⟩ | ⟨hchecked, hopens, hmerge, hnext⟩
      · refine .neither (hworld.trans hdb) fun c => ?_
        by_cases hc : c = j
        · subst hc
          rw [hself]
          exact hp
        · rw [hother c hc]
          exact hpending c
      · rw [← hself] at hnext
        rw [← hworld] at hmerge
        refine .one j ?_ ?_ ?_
        · rw [mergeOutcome_of_checked (hchecked.elim id id), hmerge]
          rfl
        · rw [hnext]
          exact idle_invalidateAreaCaches _
        · rw [hother _ (hflip j)]
          exact (hpending !j).commit _
  | one b hfirst hcarried hpending =>
      by_cases hj : j = b
      · subst hj
        obtain ⟨hrest, hdb⟩ := hcarried.burst sortKey env htxn
        rw [← hself] at hrest
        rw [← hworld] at hdb
        refine .one j ?_ hrest ?_
        · rw [hdb]
          exact hfirst
        · rw [hother _ (hflip j), hdb]
          exact hpending
      · obtain rfl : j = !b := by cases j <;> cases b <;> simp_all
        rcases hpending.burst hq htxn with ⟨hdb, hp⟩ | ⟨hchecked, hopens, hmerge, hnext⟩
        · rw [← hself] at hp
          rw [← hworld] at hdb
          refine .one b ?_ ?_ ?_
          · rw [hdb]
            exact hfirst
          · rw [hother _ fun h => hj h.symm]
            exact hcarried
          · rw [hdb]
            exact hp
        · rw [← hself] at hnext
          rw [← hworld] at hmerge
          refine .both b sys.world.db hfirst hchecked (hfinds hopens) hmerge fun c => ?_
          by_cases hc : c = !b
          · subst hc
            rw [hnext]
            exact idle_invalidateAreaCaches _
          · rw [hother _ hc]
            obtain rfl : c = b := by cases c <;> cases b <;> simp_all
            exact hcarried
  | both b db₁ hfirst hchecked hfinds hsecond hcarried =>
      obtain ⟨hrest, hdb⟩ := (hcarried j).burst sortKey env htxn
      rw [← hself] at hrest
      rw [← hworld] at hdb
      refine .both b db₁ hfirst hchecked hfinds (by rw [hdb]; exact hsecond) fun c => ?_
      by_cases hc : c = j
      · subst hc
        exact hrest
      · rw [hother c hc]
        exact hcarried c

/-- The two calls. -/
def mergePair (ctx : Bool → Option IMSClaims) (req : Bool → MarkAreaDuplicateRequest) (b : Bool) :
    AreaRunCall := .markAreaDuplicate (ctx b) (req b)

theorem pairPhase_of_run (hq : env.Quiet) {sys₀ : AreaSys Bool} {as : List Bool}
    (hprocs : ∀ b, sys₀.procs b = ((mergePair ctx req b).call s).prog)
    (htxn : sys₀.world.txn = none)
    (hrun : RunMeeting (Sys.turn (areaDB sortKey) env) (MergesFind (mergePair ctx req)) sys₀ as
      sys) : PairPhase sortKey s ctx req sys₀.world.db sys := by
  have h : sys.world.txn = none ∧ PairPhase sortKey s ctx req sys₀.world.db sys := by
    refine hrun.invariant (I := fun _ sys => sys.world.txn = none ∧
      PairPhase sortKey s ctx req sys₀.world.db sys) ⟨htxn, .neither rfl fun b => ?_⟩ ?_
    · rw [hprocs]
      exact .reading (reaches_markAreaDuplicate _ _ _ _)
    · rintro _ sys j sys' ⟨htxn, hphase⟩ hC hs
      refine ⟨?_, hphase.step hq htxn hs hC⟩
      obtain ⟨-, rfl⟩ := turn_eq_some.mp hs
      exact burst_txn _ _
  exact h.2

/-! ### The order -/

theorem any_slug_areas (sortKey : String → String) (db : DB) (e : Int) (slug : String) :
    ((db.areas sortKey e).any fun a => a.slug == slug) = db.area.contains (e, slug) := by
  rw [Bool.eq_iff_iff, List.any_eq_true, Table.contains_iff]
  constructor
  · rintro ⟨row, hrow, hslug⟩
    obtain rfl : row.slug = slug := eq_of_beq hslug
    exact ⟨row.area, DB.mem_areas.mp hrow⟩
  · rintro ⟨a, ha⟩
    exact ⟨⟨slug, a⟩, DB.mem_areas.mpr ha, beq_self_eq_true slug⟩

theorem any_parent_areas (sortKey : String → String) (db : DB) (e : Int) (slug : String) :
    ((db.areas sortKey e).any fun a => a.area.parentSlug == some slug) =
      db.isParentArea e slug := by
  rw [Bool.eq_iff_iff, List.any_eq_true, ← Bool.not_eq_false, DB.isParentArea_eq_false]
  constructor
  · rintro ⟨row, hrow, hparent⟩ hnone
    exact hnone _ _ (DB.mem_areas.mp hrow) (eq_of_beq hparent)
  · intro h
    push Not at h
    obtain ⟨slug', a, ha, hparent⟩ := h
    exact ⟨⟨slug', a⟩, DB.mem_areas.mpr ha, beq_iff_eq.mpr hparent⟩

/-- There is nothing to do for a duplicate that is gone. -/
theorem merged_of_gone {e : Int} {dup canon : String} (hunref : db.isIncidentArea e dup = false)
    (hgone : db.area.find? (e, dup) = none) : merged e dup canon db = db := by
  have hincident : db.incident.mapVal (repointed e dup canon) = db.incident := by
    refine Table.ext ?_
    refine (List.map_congr_left fun r hr => ?_).trans (List.map_id _)
    rw [repointed, if_neg, id]
    rintro ⟨he, hslug⟩
    refine List.any_eq_false.mp hunref r hr ?_
    rw [he, hslug, beq_self_eq_true, beq_self_eq_true]
    rfl
  rw [merged, hincident, erase_of_absent hgone]

/-- The list is accepted if both areas are on it, and the duplicate has no sub-areas. -/
theorem mergeRefusal_eq_none {e : Int} {dup canon : String} :
    mergeRefusal (db.areas sortKey e) dup canon = none ↔ db.area.contains (e, dup) = true ∧
      db.area.contains (e, canon) = true ∧ db.isParentArea e dup = false := by
  rw [mergeRefusal, any_slug_areas, any_slug_areas, any_parent_areas]
  cases db.area.contains (e, dup) <;> cases db.area.contains (e, canon) <;>
    cases db.isParentArea e dup <;> simp

/-- After another merge the list is accepted again, unless that has deleted the duplicate: then
there is nothing left to do. -/
theorem checked_after {ctx : Option IMSClaims} {req first : MarkAreaDuplicateRequest} {db₂ : DB}
    (h : Checked sortKey ctx req db)
    (hne : first.canonicalSlug ≠ first.areaSlug)
    (hfirst : mergeTx first.eventID first.areaSlug first.canonicalSlug db = .ok db')
    (hfinds : MergeFinds db' req)
    (hsecond : mergeTx req.eventID req.areaSlug req.canonicalSlug db' = .ok db₂) :
    Checked sortKey ctx req db' ∨
      (first.eventID, first.areaSlug) = (req.eventID, req.areaSlug) ∧ db₂ = db' := by
  have hcanon := canonical_of_mergeTx h.ne hfinds hsecond
  obtain ⟨hthere, -, hchild⟩ := mergeRefusal_eq_none.mp h.accepted
  obtain ⟨-, -, rfl⟩ := (mergeTx_eq_ok hne).mp hfirst
  obtain ⟨-, -, rfl⟩ := (mergeTx_eq_ok h.ne).mp hsecond
  have hfind : ∀ k, (merged first.eventID first.areaSlug first.canonicalSlug db).area.find? k =
      if k = (first.eventID, first.areaSlug) then none else db.area.find? k :=
    fun k => Table.find?_erase _ _ k
  by_cases hsame : (req.eventID, req.areaSlug) = (first.eventID, first.areaSlug)
  · refine Or.inr ⟨hsame.symm, ?_⟩
    obtain ⟨he, hslug⟩ := Prod.ext_iff.mp hsame
    have hunref : (merged first.eventID first.areaSlug first.canonicalSlug db).isIncidentArea
        req.eventID req.areaSlug = false := by
      rw [show req.eventID = first.eventID from he, show req.areaSlug = first.areaSlug from hslug]
      exact isIncidentArea_repointed hne
    exact merged_of_gone hunref (by rw [hfind, if_pos hsame])
  · refine Or.inl ⟨h.allowed, mergeRefusal_eq_none.mpr ⟨?_, hcanon, ?_⟩⟩
    · obtain ⟨row, hrow⟩ := Table.contains_iff.mp hthere
      exact Table.contains_iff.mpr ⟨row, by rw [hfind, if_neg hsame, hrow]⟩
    · refine DB.isParentArea_eq_false.mpr fun slug a ha => ?_
      rw [hfind] at ha
      split at ha
      · cases ha
      · exact DB.isParentArea_eq_false.mp hchild slug a ha

/-- Two merges, one after the other: what each answers, and the database they leave. -/
def mergesInOrder (s : AreaService) (sortKey : String → String) (env : AreaEnv)
    (ctx : Bool → Option IMSClaims) (req : Bool → MarkAreaDuplicateRequest) (first : Bool)
    (w : AreaWorld) : (Bool → Except ConnectError Unit) × DB :=
  let done := (markAreaDuplicate s (ctx first) (req first)).run (areaDB sortKey) env w
  let last := (markAreaDuplicate s (ctx !first) (req !first)).run (areaDB sortKey) env
    { done.2 with txn := none }
  (fun b => if b = first then done.1 else last.1, last.2.db)

/-- What one merge answers is told by its outcome. -/
theorem mergesInOrder_eq (s : AreaService) (sortKey : String → String)
    (ctx : Bool → Option IMSClaims) (req : Bool → MarkAreaDuplicateRequest) (hq : env.Quiet) (first : Bool) (hw : w.txn = none) :
    let db₁ := (mergeOutcome sortKey (ctx first) (req first) w.db).getD w.db
    let ran := mergesInOrder s sortKey env ctx req first w
    ran.2 = (mergeOutcome sortKey (ctx !first) (req !first) db₁).getD db₁ ∧
      (ran.1 first).isOk = (mergeOutcome sortKey (ctx first) (req first) w.db).isSome ∧
      (ran.1 !first).isOk = (mergeOutcome sortKey (ctx !first) (req !first) db₁).isSome := by
  have hrun : ∀ (b : Bool) (w : AreaWorld), w.txn = none →
      let done := (markAreaDuplicate s (ctx b) (req b)).run (areaDB sortKey) env w
      done.2.db = (mergeOutcome sortKey (ctx b) (req b) w.db).getD w.db ∧
        done.1.isOk = (mergeOutcome sortKey (ctx b) (req b) w.db).isSome := by
    intro b w hw
    rcases run_markAreaDuplicate s sortKey hq (ctx b) (req b) hw with
      ⟨⟨err, herr⟩, hdb, hout⟩ | ⟨hok, hout⟩
    · rw [hout]
      exact ⟨hdb, by rw [herr]; rfl⟩
    · rw [hout]
      exact ⟨rfl, by rw [hok]; rfl⟩
  obtain ⟨hdb, hok⟩ := hrun first w hw
  obtain ⟨hdb', hok'⟩ := hrun (!first)
    { ((markAreaDuplicate s (ctx first) (req first)).run (areaDB sortKey) env w).2 with
      txn := none } rfl
  have hflip : (!first) ≠ first := by cases first <;> decide
  dsimp only [mergesInOrder]
  rw [← hdb, if_pos rfl, if_neg hflip]
  exact ⟨hdb', hok, hok'⟩

/-- Two merges that have answered have come to what they come to in some order. -/
theorem PairPhase.in_order (hq : env.Quiet) {sys₀ : AreaSys Bool} (htxn : sys₀.world.txn = none)
    (h : PairPhase sortKey s ctx req sys₀.world.db sys) {answers : Bool → Except ConnectError Unit}
    (hdone : ∀ b, sys.procs b = .ret (answers b)) :
    ∃ first, sys.world.db = (mergesInOrder s sortKey env ctx req first sys₀.world).2 ∧
      (((req true).eventID, (req true).areaSlug) ≠ ((req false).eventID, (req false).areaSlug) →
        ∀ b, (answers b).isOk =
          ((mergesInOrder s sortKey env ctx req first sys₀.world).1 b).isOk) := by
  have hcarried : ∀ b, Carried (sys.procs b) → (answers b).isOk = true := by
    intro b hb
    rw [hdone] at hb
    cases hr : answers b with
    | ok u => rfl
    | error err =>
        rw [hr] at hb
        exact hb.elim
  have hrefused : ∀ b, AnswersError (answers b) → (answers b).isOk = false := by
    rintro b ⟨err, herr⟩
    rw [herr]
    rfl
  have hboth : ∀ first, (∀ b : Bool, b = first ∨ b = !first) := by decide
  -- It is enough to compare the two one by one.
  have hin : ∀ first (p : Prop), sys.world.db = (mergesInOrder s sortKey env ctx req first sys₀.world).2 →
      (p → (answers first).isOk = ((mergesInOrder s sortKey env ctx req first sys₀.world).1 first).isOk ∧
        (answers !first).isOk =
          ((mergesInOrder s sortKey env ctx req first sys₀.world).1 !first).isOk) →
      sys.world.db = (mergesInOrder s sortKey env ctx req first sys₀.world).2 ∧ (p → ∀ b,
        (answers b).isOk = ((mergesInOrder s sortKey env ctx req first sys₀.world).1 b).isOk) := by
    refine fun first p hdb hans => ⟨hdb, fun hp b => ?_⟩
    rcases hboth first b with rfl | rfl
    · exact (hans hp).1
    · exact (hans hp).2
  cases h with
  | neither hdb hpending =>
      obtain ⟨hdb', hfirst, hsecond⟩ := mergesInOrder_eq s sortKey ctx req hq true htxn
      have hnone : ∀ b, AnswersError (answers b) ∧
          mergeOutcome sortKey (ctx b) (req b) sys₀.world.db = none := by
        intro b
        have hp := hpending b
        rw [hdone] at hp
        exact ⟨hp.of_ret.1, hp.of_ret.2.elim id id⟩
      rw [(hnone true).2] at hdb' hfirst hsecond
      rw [Option.getD_none, show (!true) = false from rfl, (hnone false).2] at hdb' hsecond
      refine ⟨true, hin true _ (hdb.trans hdb'.symm) fun _ => ⟨?_, ?_⟩⟩
      · rw [hfirst, hrefused _ (hnone true).1]
        rfl
      · rw [show (!true) = false from rfl, hsecond, hrefused _ (hnone false).1]
        rfl
  | one b hfirst hcarry hpending =>
      rw [hdone] at hpending
      obtain ⟨hr, hnone⟩ := hpending.of_ret
      rcases hnone with hnone | hnone
      · -- The one that failed would have failed first.
        obtain ⟨hdb, hone, htwo⟩ := mergesInOrder_eq s sortKey ctx req hq (!b) htxn
        rw [hnone] at hdb hone htwo
        rw [Option.getD_none, Bool.not_not, hfirst] at hdb htwo
        refine ⟨!b, hin (!b) _ hdb.symm fun _ => ⟨?_, ?_⟩⟩
        · rw [hone, hrefused _ hr]
          rfl
        · rw [Bool.not_not, htwo, hcarried _ hcarry]
          rfl
      · obtain ⟨hdb, hone, htwo⟩ := mergesInOrder_eq s sortKey ctx req hq b htxn
        rw [hfirst] at hdb hone htwo
        rw [Option.getD_some, hnone] at hdb htwo
        refine ⟨b, hin b _ hdb.symm fun _ => ⟨?_, ?_⟩⟩
        · rw [hone, hcarried _ hcarry]
          rfl
        · rw [htwo, hrefused _ hr]
          rfl
  | both b db₁ hfirst hchecked hfinds hsecond hcarry =>
      obtain ⟨hdb, hone, htwo⟩ := mergesInOrder_eq s sortKey ctx req hq b htxn
      rw [hfirst] at hdb hone htwo
      rw [Option.getD_some] at hdb htwo
      obtain ⟨hchecked₁, hmerge⟩ := mergeOutcome_eq_some.mp hfirst
      have hafter : Checked sortKey (ctx !b) (req !b) db₁ ∨
          ((req b).eventID, (req b).areaSlug) = ((req !b).eventID, (req !b).areaSlug) ∧
            sys.world.db = db₁ := by
        rcases hchecked with hchecked | hchecked
        · exact checked_after hchecked hchecked₁.ne hmerge hfinds hsecond
        · exact Or.inl hchecked
      rcases hafter with hchecked' | ⟨hsame, heq⟩
      · have hout : mergeOutcome sortKey (ctx !b) (req !b) db₁ = some sys.world.db :=
          mergeOutcome_eq_some.mpr ⟨hchecked', hsecond⟩
        rw [hout] at hdb htwo
        refine ⟨b, hin b _ hdb.symm fun _ => ⟨?_, ?_⟩⟩
        · rw [hone, hcarried _ (hcarry _)]
          rfl
        · rw [htwo, hcarried _ (hcarry _)]
          rfl
      · refine ⟨b, hin b _ ?_ fun hne => ?_⟩
        · rw [hdb]
          cases hout : mergeOutcome sortKey (ctx !b) (req !b) db₁ with
          | none => exact heq
          | some db₂ =>
              exact Except.ok.inj (hsecond.symm.trans (mergeOutcome_eq_some.mp hout).2)
        · cases b
          · exact absurd hsame.symm hne
          · exact absurd hsame hne

end Steps

/-! ## Merges in any interleaving -/

/-- A system of calls that have not started yet. -/
def areaSys {ι : Type} (s : AreaService) (calls : ι → AreaRunCall) (w : AreaWorld) : AreaSys ι :=
  ⟨fun i => ((calls i).call s).prog, w⟩

/-- **Merges run to completion or do nothing, where each finds what it needs.** Among any calls on
areas and incidents, a merge that succeeds is carried out in one of its steps and one that fails
changes nothing; and two merges come to what they come to one after the other, except that two of
one duplicate may both be told that they have succeeded. -/
theorem markAreaDuplicate_merges (s : AreaService) (sortKey : String → String) (env : AreaEnv) :
    (∀ {ι : Type} [DecidableEq ι] (calls : ι → AreaRunCall) (w : AreaWorld) (as : List ι)
      (sys : AreaSys ι), w.txn = none →
      RunMeeting (Sys.turn (areaDB sortKey) env) (MergesFind calls) (areaSys s calls w) as sys →
      ∀ i ctx req, calls i = .markAreaDuplicate ctx req →
        (sys.procs i = .ret (.ok ()) →
          Once (Sys.turn (areaDB sortKey) env) (fun sys => sys.world.db)
            (fun sys sys' => Merges req.eventID req.areaSlug req.canonicalSlug sys.world.db
              sys'.world.db) (areaSys s calls w) as i) ∧
        ∀ err, sys.procs i = .ret (.error err) →
          Still (Sys.turn (areaDB sortKey) env) (fun sys => sys.world.db) (areaSys s calls w) as
            i) ∧
    (env.Quiet → ∀ (ctx : Bool → Option IMSClaims) (req : Bool → MarkAreaDuplicateRequest)
      (w : AreaWorld) (as : List Bool) (sys : AreaSys Bool)
      (answers : Bool → Except ConnectError Unit), w.txn = none →
      RunMeeting (Sys.turn (areaDB sortKey) env) (MergesFind (mergePair ctx req))
        (areaSys s (mergePair ctx req) w) as sys →
      (∀ b, sys.procs b = .ret (answers b)) →
        ∃ first, sys.world.db = (mergesInOrder s sortKey env ctx req first w).2 ∧
          (((req true).eventID, (req true).areaSlug) ≠ ((req false).eventID, (req false).areaSlug) →
            ∀ b, (answers b).isOk = ((mergesInOrder s sortKey env ctx req first w).1 b).isOk)) := by
  refine ⟨fun calls w as sys htxn hrun i ctx req hcall => ?_,
    fun hq ctx req w as sys answers htxn hrun hdone => ?_⟩
  · have hphase : MergePhase sortKey env s req (areaSys s calls w) i as (sys.procs i) :=
      mergePhase_of_run (fun _ => rfl) htxn hrun hcall
    refine ⟨fun hok => ?_, fun err herr => ?_⟩
    · rw [hok] at hphase
      cases hphase with
      | waiting hx _ => exact nomatch hx
      | done _ honce => exact honce
    · rw [herr] at hphase
      cases hphase with
      | waiting _ hstill => exact hstill
      | done hx _ => exact hx.elim
  · have hphase : PairPhase sortKey s ctx req w.db sys :=
      pairPhase_of_run hq (fun _ => rfl) htxn hrun
    have hclosed : (areaSys s (mergePair ctx req) w).world.txn = none := htxn
    exact PairPhase.in_order hq hclosed hphase hdone

/-- An event with two areas, and maybe an incident in the first. -/
def twoAreas (located : Bool) : AreaWorld where
  db :=
    { event := Table.empty.insert 1 { name := "fair" }
      area := (Table.empty.insert (1, "north") { name := "North" }).insert (1, "south")
        { name := "South" }
      incident := if located then Table.empty.insert (1, 1)
        { created := 0, priority := 3, state := .stateOpen, started := 0, createdBy := none,
          locationAreaSlug := some "north" } else Table.empty }
  nextId := 1

/-- Each area is merged into the other. -/
def crossing (b : Bool) : MarkAreaDuplicateRequest :=
  if b then ⟨1, "south", "north"⟩ else ⟨1, "north", "south"⟩

def crossingPair : Bool → AreaRunCall := mergePair (fun _ => areaAdmin) crossing

/-- What a merge has answered. -/
def answerOf : AreaProg → Option (Except ConnectCode Unit)
  | .ret (.ok ()) => some (.ok ())
  | .ret (.error err) => some (.error err.code)
  | .op _ _ => none

theorem eq_of_answerOf_ok {x : AreaProg} (h : answerOf x = some (.ok ())) : x = .ret (.ok ()) := by
  rcases x with ⟨_ | _⟩ | _ <;> cases h
  rfl

theorem eq_of_answerOf_error {x : AreaProg} {code : ConnectCode}
    (h : answerOf x = some (.error code)) : ∃ err, x = .ret (.error err) := by
  rcases x with ⟨err | _⟩ | _ <;> cases h
  exact ⟨err, rfl⟩

/-- Both have read the list when the first is carried out; the foreign key refuses the second,
because the incident that was moved to South would be left without an area. -/
theorem markAreaDuplicate_merges_crossing :
    ∃ sys, RunMeeting (Sys.turn (areaDB id) stillAreaEnv) (MergesFind crossingPair)
      (areaSys asciiAreas crossingPair (twoAreas true))
      [false, false, true, true, false, true, false, false, false] sys ∧
    sys.world.db.area.rows.map (·.1) = [(1, "south")] ∧
    Once (Sys.turn (areaDB id) stillAreaEnv) (fun sys => sys.world.db)
      (fun sys sys' => Merges 1 "north" "south" sys.world.db sys'.world.db)
      (areaSys asciiAreas crossingPair (twoAreas true))
      [false, false, true, true, false, true, false, false, false] false ∧
    Still (Sys.turn (areaDB id) stillAreaEnv) (fun sys => sys.world.db)
      (areaSys asciiAreas crossingPair (twoAreas true))
      [false, false, true, true, false, true, false, false, false] true ∧
    ∃ first, sys.world.db =
      (mergesInOrder asciiAreas id stillAreaEnv (fun _ => areaAdmin) crossing first
        (twoAreas true)).2 := by
  have hexec : (RunLib.exec (fun sys i => if MergesFind crossingPair sys i then
      Sys.turn (areaDB id) stillAreaEnv sys i else none)
      (areaSys asciiAreas crossingPair (twoAreas true))
      [false, false, true, true, false, true, false, false, false]).map
      (fun sys => (answerOf (sys.procs false), answerOf (sys.procs true),
        sys.world.db.area.rows.map (·.1))) =
        some (some (.ok ()), some (.error .internal), [(1, "south")]) := by decide
  obtain ⟨sys, hsys, hend⟩ := Option.map_eq_some_iff.mp hexec
  rw [Prod.mk.injEq, Prod.mk.injEq] at hend
  obtain ⟨hnorth, hsouth, hareas⟩ := hend
  have hmeet := runMeeting_of_exec hsys
  have hok := eq_of_answerOf_ok hnorth
  obtain ⟨err, herr⟩ := eq_of_answerOf_error hsouth
  obtain ⟨hmerges, horder⟩ := markAreaDuplicate_merges asciiAreas id stillAreaEnv
  have hdone : ∀ b, sys.procs b = .ret (if b then .error err else .ok ()) := by
    intro b
    cases b with
    | true => exact herr
    | false => exact hok
  obtain ⟨first, hfirst, -⟩ := horder (fun _ => rfl) (fun _ => areaAdmin) crossing (twoAreas true) _
    sys _ rfl hmeet hdone
  exact ⟨sys, hmeet, hareas,
    (hmerges crossingPair (twoAreas true) _ sys rfl hmeet false areaAdmin (crossing false) rfl).1 hok,
    (hmerges crossingPair (twoAreas true) _ sys rfl hmeet true areaAdmin (crossing true) rfl).2 err
      herr, first, hfirst⟩

/-- **Two merges that cross, where no incident references either area, both succeed.** The second
commits when its canonical area is gone already, and leaves neither; one after the other, either
order would have left one of them. -/
theorem crossing_bothGone : ∃ sys sys' final,
    Run (Sys.turn (areaDB id) stillAreaEnv) (areaSys asciiAreas crossingPair (twoAreas false))
      [false, false, true, true, false] sys ∧
    sys.world.db.area.rows.map (·.1) = [(1, "south")] ∧
    sys.turn (areaDB id) stillAreaEnv true = some sys' ∧
    sys'.world.db.area.rows.map (·.1) = [] ∧
    Run (Sys.turn (areaDB id) stillAreaEnv) sys' [false, false, false, true, true, true] final ∧
    (∀ b, final.procs b = .ret (.ok ())) ∧
    ∀ first, final.world.db ≠
      (mergesInOrder asciiAreas id stillAreaEnv (fun _ => areaAdmin) crossing first
        (twoAreas false)).2 := by
  have hexec : (RunLib.exec (Sys.turn (areaDB id) stillAreaEnv)
      (areaSys asciiAreas crossingPair (twoAreas false)) [false, false, true, true, false]).bind
      (fun sys => (sys.turn (areaDB id) stillAreaEnv true).bind fun sys' =>
        (RunLib.exec (Sys.turn (areaDB id) stillAreaEnv) sys'
          [false, false, false, true, true, true]).map fun final =>
            ([sys, sys', final].map fun sys => sys.world.db.area.rows.map (·.1),
              answerOf (final.procs false), answerOf (final.procs true))) =
      some ([[(1, "south")], [], []], some (.ok ()), some (.ok ())) := by decide
  obtain ⟨sys, hsys, hexec⟩ := Option.bind_eq_some_iff.mp hexec
  obtain ⟨sys', hsys', hexec⟩ := Option.bind_eq_some_iff.mp hexec
  obtain ⟨final, hfinal, hend⟩ := Option.map_eq_some_iff.mp hexec
  rw [Prod.mk.injEq, Prod.mk.injEq] at hend
  obtain ⟨hareas, hnorth, hsouth⟩ := hend
  obtain ⟨hone, hareas⟩ := List.cons.inj hareas
  obtain ⟨hnone, hareas⟩ := List.cons.inj hareas
  obtain ⟨hgone, -⟩ := List.cons.inj hareas
  refine ⟨sys, sys', final, run_of_exec hsys, hone, hsys', hnone, run_of_exec hfinal, fun b => ?_,
    fun first heq => ?_⟩
  · cases b with
    | true => exact eq_of_answerOf_ok hsouth
    | false => exact eq_of_answerOf_ok hnorth
  · have hleft : ∀ first : Bool, ((mergesInOrder asciiAreas id stillAreaEnv (fun _ => areaAdmin)
        crossing first (twoAreas false)).2.area.rows.map (·.1)) ≠ [] := by decide
    have hempty : final.world.db.area.rows.map (·.1) = [] := hgone
    rw [heq] at hempty
    exact hleft first hempty

end OcfIms
