import VdeTmux.SessionManager.KillServer

/-!
# What the cleanup may hit

Which signal may be sent is a condition on the calls and replies before it. The loops of the
cleanup keep a sweep: which groups were asked to end, which were seen alive after that, and
which were reported dead since their last signal.
-/

open Foundation
namespace VdeTmux.SessionManager

open Fallible

abbrev History : Type := List (Answered Call Reply)

def Call.signals : Call → Option ℤ
  | .sendTerm pgid => some pgid
  | .sendKill pgid => some pgid
  | _ => none

def Call.dangerous : Call → Prop
  | .sendTerm _ | .sendKill _ | .sendCtrlC _ | .killServer => True
  | _ => False

def Failure (e : Answered Call Reply) : Prop :=
  (∀ milliseconds, e.1 ≠ .wait milliseconds) ∧ ∃ error, e.2 = .error error

def Clean (past : History) : Prop := ∀ e ∈ past, ¬Failure e

def Succeeded (past : History) (c : Call) (a : c.Result) : Prop :=
  (⟨c, .ok a⟩ : Answered Call Reply) ∈ past

def DaemonDisabled (past : History) : Prop := ∃ server, Succeeded past (.disableDaemon server) ()

def Excluded (past : History) (pgid : ℤ) : Prop :=
  pgid ≤ 1 ∨ (∃ own, Succeeded past .selfProcess own ∧ own.pgid = pgid) ∨
    ∃ pid, Succeeded past (.processGroupForPid pid) (some pgid)

def SeenAlive (past : History) (pgid : ℤ) : Prop :=
  ∃ later earlier : History, past = later ++ ⟨.processGroupAlive pgid, .ok true⟩ :: earlier ∧
    Succeeded earlier (.sendTerm pgid) ()

def ReportedDead (past : History) (pgid : ℤ) : Prop :=
  ∃ later earlier : History, past = later ++ ⟨.processGroupAlive pgid, .ok false⟩ :: earlier ∧
    (∃ e ∈ earlier, e.1.signals = some pgid) ∧ ∀ e ∈ later, e.1.signals ≠ some pgid

def Allowed (past : History) : Call → Prop
  | .selfProcess | .processGroupForPid _ => ∀ e ∈ past, ¬e.1.dangerous
  | .sendCtrlC _ => Clean past ∧ DaemonDisabled past
  | .sendTerm pgid => Clean past ∧ DaemonDisabled past ∧ ¬Excluded past pgid
  | .sendKill pgid => Clean past ∧ DaemonDisabled past ∧ ¬Excluded past pgid ∧ SeenAlive past pgid
  | .killServer => Clean past ∧ DaemonDisabled past ∧ (∀ e ∈ past, e.1 ≠ .killServer) ∧
      (∀ e ∈ past, ∀ pgid, e.1.signals = some pgid → ReportedDead past pgid) ∧
      ∃ server earlier, past = ⟨.serverPresence server, .ok .present⟩ :: earlier ∧
        Succeeded earlier .resolveServer server
  | _ => True

def Gone (past : History) : Prop :=
  Succeeded past .killServer () ∨ ∃ server, Succeeded past .resolveServer server ∧
    Succeeded past (.serverPresence server) .absent

theorem clean_cons {c : Call} {r : Reply c} {past : History}
    (hr : ¬Failure ⟨c, r⟩) (h : Clean past) : Clean (⟨c, r⟩ :: past) :=
  List.forall_mem_cons.mpr ⟨hr, h⟩

theorem not_failure_ok {c : Call} {a : c.Result} : ¬Failure ⟨c, .ok a⟩ := by
  rintro ⟨-, error, herror⟩
  cases herror

theorem not_failure_wait {milliseconds : ℕ} {r : Reply (.wait milliseconds)} :
    ¬Failure ⟨.wait milliseconds, r⟩ := fun h => h.1 milliseconds rfl

theorem SeenAlive.cons {e : Answered Call Reply} {past : History} {pgid : ℤ}
    (h : SeenAlive past pgid) : SeenAlive (e :: past) pgid := by
  obtain ⟨later, earlier, rfl, hterm⟩ := h
  exact ⟨e :: later, earlier, rfl, hterm⟩

theorem ReportedDead.cons {e : Answered Call Reply} {past : History} {pgid : ℤ}
    (he : e.1.signals ≠ some pgid) (h : ReportedDead past pgid) : ReportedDead (e :: past) pgid := by
  obtain ⟨later, earlier, rfl, hsignal, hlater⟩ := h
  exact ⟨e :: later, earlier, rfl, hsignal, List.forall_mem_cons.mpr ⟨he, hlater⟩⟩

structure Ready (server : TmuxServerIncarnation) (own : ProcessIdentity)
    (serverPgid : Option ℤ) (past : History) : Prop where
  clean : Clean past
  disabled : DaemonDisabled past
  resolved : Succeeded past .resolveServer server
  ownGroup : ∀ other, Succeeded past .selfProcess other → other = own
  serverGroup : ∀ pid other, Succeeded past (.processGroupForPid pid) other → other = serverPgid
  running : ∀ e ∈ past, e.1 ≠ .killServer

def Targets (own : ProcessIdentity) (serverPgid : Option ℤ) (groups : List ℤ) : Prop :=
  ∀ pgid ∈ groups, 1 < pgid ∧ pgid ≠ own.pgid ∧ serverPgid ≠ some pgid

def Call.plain : Call → Prop
  | .selfProcess | .processGroupForPid _ | .killServer => False
  | _ => True

section Sweep
variable {server : TmuxServerIncarnation} {own : ProcessIdentity} {serverPgid : Option ℤ}
  {past : History} {groups : List ℤ} {termed alive dead : ℤ → Prop} {pgid : ℤ}

theorem Ready.cons {c : Call} {r : Reply c} (h : Ready server own serverPgid past)
    (hr : ¬Failure ⟨c, r⟩) (hc : c.plain) : Ready server own serverPgid (⟨c, r⟩ :: past) where
  clean := clean_cons hr h.clean
  disabled := h.disabled.imp fun _ hmem => List.mem_cons_of_mem _ hmem
  resolved := List.mem_cons_of_mem _ h.resolved
  ownGroup other hother := by
    rcases List.mem_cons.mp hother with heq | hmem
    · cases heq
      exact hc.elim
    · exact h.ownGroup other hmem
  serverGroup pid other hother := by
    rcases List.mem_cons.mp hother with heq | hmem
    · cases heq
      exact hc.elim
    · exact h.serverGroup pid other hmem
  running e he heq := by
    rcases List.mem_cons.mp he with rfl | hmem
    · obtain rfl : c = .killServer := heq
      exact hc
    · exact h.running e hmem heq

theorem Ready.not_excluded (h : Ready server own serverPgid past)
    (htargets : Targets own serverPgid groups) (hmem : pgid ∈ groups) : ¬Excluded past pgid := by
  obtain ⟨hpos, hself, hserver⟩ := htargets pgid hmem
  rintro (hle | ⟨other, hother, rfl⟩ | ⟨pid, hpid⟩)
  · omega
  · exact hself (congrArg ProcessIdentity.pgid (h.ownGroup other hother))
  · exact hserver (h.serverGroup pid _ hpid).symm

structure Sweep (server : TmuxServerIncarnation) (own : ProcessIdentity)
    (serverPgid : Option ℤ) (groups : List ℤ) (termed alive dead : ℤ → Prop) (past : History) :
    Prop where
  ready : Ready server own serverPgid past
  targeted : ∀ e ∈ past, ∀ pgid, e.1.signals = some pgid → pgid ∈ groups
  termed : ∀ pgid, termed pgid → Succeeded past (.sendTerm pgid) ()
  alive : ∀ pgid, alive pgid → SeenAlive past pgid
  dead : ∀ pgid, dead pgid → ReportedDead past pgid

theorem Sweep.cons {c : Call} {r : Reply c}
    (h : Sweep server own serverPgid groups termed alive dead past)
    (hr : ¬Failure ⟨c, r⟩) (hc : c.plain)
    (hsignals : ∀ pgid, c.signals = some pgid → pgid ∈ groups ∧ ¬dead pgid) :
    Sweep server own serverPgid groups termed alive dead (⟨c, r⟩ :: past) where
  ready := h.ready.cons hr hc
  targeted := List.forall_mem_cons.mpr ⟨fun pgid hpgid => (hsignals pgid hpgid).1, h.targeted⟩
  termed pgid hpgid := List.mem_cons_of_mem _ (h.termed pgid hpgid)
  alive pgid hpgid := (h.alive pgid hpgid).cons
  dead pgid hpgid := (h.dead pgid hpgid).cons fun hsignal => (hsignals pgid hsignal).2 hpgid

theorem Sweep.wait {milliseconds : ℕ} {r : Reply (.wait milliseconds)}
    (h : Sweep server own serverPgid groups termed alive dead past) :
    Sweep server own serverPgid groups termed alive dead (⟨.wait milliseconds, r⟩ :: past) :=
  h.cons not_failure_wait trivial nofun

theorem Sweep.mono {termed' alive' dead' : ℤ → Prop}
    (h : Sweep server own serverPgid groups termed alive dead past)
    (htermed : ∀ pgid, termed' pgid → termed pgid) (halive : ∀ pgid, alive' pgid → alive pgid)
    (hdead : ∀ pgid, dead' pgid → dead pgid) :
    Sweep server own serverPgid groups termed' alive' dead' past :=
  ⟨h.ready, h.targeted, fun pgid hpgid => h.termed pgid (htermed pgid hpgid),
    fun pgid hpgid => h.alive pgid (halive pgid hpgid),
    fun pgid hpgid => h.dead pgid (hdead pgid hpgid)⟩

theorem Sweep.not_excluded (h : Sweep server own serverPgid groups termed alive dead past)
    (htargets : Targets own serverPgid groups) (hmem : pgid ∈ groups) : ¬Excluded past pgid :=
  h.ready.not_excluded htargets hmem

abbrev Ensures {α : Type} (post : α → History → Prop) (m : Ops α) (past : History) : Prop :=
  Ends Allowed post (fun _ _ => True) m past

theorem Ensures.attempt {c : Call} {progress : CleanupProgress} {stage : String}
    {post : c.Result → History → Prop} (hallowed : Allowed past c)
    (hok : ∀ a : c.Result, post a (⟨c, .ok a⟩ :: past)) :
    Ensures post (attempt c progress stage) past := by
  refine Ends.ask hallowed (fun r a hr => ?_) fun _ _ _ => trivial
  obtain rfl := mapError_eq_ok.mp hr
  exact hok a

theorem Ensures.query {c : Call} {context : String} {post : c.Result → History → Prop}
    (hallowed : Allowed past c) (hok : ∀ a : c.Result, post a (⟨c, .ok a⟩ :: past)) :
    Ensures post (query c context) past := by
  refine Ends.ask hallowed (fun r a hr => ?_) fun _ _ _ => trivial
  obtain rfl := mapError_eq_ok.mp hr
  exact hok a

theorem Ensures.check {result : Except String Unit} {post : Unit → History → Prop}
    (hok : result = .ok () → post () past) : Ensures post (check result) past :=
  Ends.check (fun _ hresult => hok hresult) fun _ _ => trivial

theorem Ensures.waitFor {milliseconds : ℕ} {post : Unit → History → Prop}
    (hok : ∀ r, post () (⟨.wait milliseconds, r⟩ :: past)) :
    Ensures post (waitFor milliseconds) past :=
  Ends.ask trivial (fun r _ _ => hok r) fun _ _ _ => trivial

theorem term_loop {progress : CleanupProgress} (htargets : Targets own serverPgid groups)
    (h : Sweep server own serverPgid groups (fun _ => False) (fun _ => False) (fun _ => False)
      past) :
    Ensures (fun _ past => Sweep server own serverPgid groups (· ∈ groups) (fun _ => False)
      (fun _ => False) past) (groups.foldlM termGroup progress) past := by
  refine Ends.foldlM (fun finished _ past => Sweep server own serverPgid groups (· ∈ finished)
    (fun _ => False) (fun _ => False) past) ?_ (h.mono (by simp) (by simp) (by simp))
  intro finished pgid rest progress past hl hsweep
  have hmem : pgid ∈ groups := by simp [hl]
  have hallowed : Allowed past (.sendTerm pgid) :=
    ⟨hsweep.ready.clean, hsweep.ready.disabled, hsweep.not_excluded htargets hmem⟩
  refine Ends.bind (Ensures.attempt hallowed fun _ => Ends.pure ?_)
  have hnext := hsweep.cons (c := .sendTerm pgid) (r := .ok ()) not_failure_ok trivial
    fun other hother => by
      cases hother
      exact ⟨hmem, id⟩
  refine ⟨hnext.ready, hnext.targeted, fun other hother => ?_, hnext.alive, hnext.dead⟩
  rcases List.mem_append.mp hother with hdone | hlast
  · exact hnext.termed other hdone
  · obtain rfl := List.mem_singleton.mp hlast
    exact List.mem_cons_self

theorem survivors_loop {progress : CleanupProgress}
    (h : Sweep server own serverPgid groups (· ∈ groups) (fun _ => False) (fun _ => False) past) :
    Ensures (fun survivors past => survivors ⊆ groups ∧
      Sweep server own serverPgid groups (· ∈ groups) (· ∈ survivors)
        (fun pgid => pgid ∈ groups ∧ pgid ∉ survivors) past)
      (groups.foldlM (keepSurvivor progress) []) past := by
  refine Ends.foldlM (fun finished survivors past => survivors ⊆ groups ∧
    Sweep server own serverPgid groups (· ∈ groups) (· ∈ survivors)
      (fun pgid => pgid ∈ finished ∧ pgid ∉ survivors) past) ?_
    ⟨List.nil_subset _, h.mono (fun _ => id) (by simp) (by simp)⟩
  rintro finished pgid rest survivors past hl ⟨hsubset, hsweep⟩
  have hmem : pgid ∈ groups := by simp [hl]
  have hterm := hsweep.termed pgid hmem
  refine Ends.bind (Ensures.attempt trivial fun (alive : Bool) => Ends.pure ?_)
  have hnext := hsweep.cons (c := .processGroupAlive pgid) (r := .ok alive) not_failure_ok trivial
    nofun
  cases alive with
  | true =>
    refine ⟨List.append_subset.mpr ⟨hsubset, by simpa using hmem⟩,
      hnext.ready, hnext.targeted, hnext.termed, fun other hother => ?_, fun other hother => ?_⟩
    · rcases List.mem_append.mp hother with hold | hlast
      · exact hnext.alive other hold
      · obtain rfl := List.mem_singleton.mp hlast
        exact ⟨[], past, rfl, hterm⟩
    · obtain ⟨hdone, hnot⟩ := hother
      obtain ⟨hold, hlast⟩ := not_or.mp (mt List.mem_append.mpr hnot)
      rcases List.mem_append.mp hdone with hdone | hdone
      · exact hnext.dead other ⟨hdone, hold⟩
      · exact absurd hdone hlast
  | false =>
    refine ⟨hsubset, hnext.ready, hnext.targeted, hnext.termed, hnext.alive,
      fun other hother => ?_⟩
    obtain ⟨hdone, hnot⟩ := hother
    rcases List.mem_append.mp hdone with hdone | hdone
    · exact hnext.dead other ⟨hdone, hnot⟩
    · obtain rfl := List.mem_singleton.mp hdone
      exact ⟨[], past, rfl, ⟨_, hterm, rfl⟩, by simp⟩

theorem kill_loop {progress : CleanupProgress} {survivors : List ℤ}
    (htargets : Targets own serverPgid groups) (hsubset : survivors ⊆ groups)
    (h : Sweep server own serverPgid groups (· ∈ groups) (· ∈ survivors)
      (fun pgid => pgid ∈ groups ∧ pgid ∉ survivors) past) :
    Ensures (fun _ past => Sweep server own serverPgid groups (· ∈ groups) (· ∈ survivors)
      (fun pgid => pgid ∈ groups ∧ pgid ∉ survivors) past)
      (survivors.foldlM killGroup progress) past := by
  refine Ends.foldlM (fun _ _ past => Sweep server own serverPgid groups (· ∈ groups)
    (· ∈ survivors) (fun pgid => pgid ∈ groups ∧ pgid ∉ survivors) past) ?_ h
  intro finished pgid rest progress past hl hsweep
  have hmem : pgid ∈ survivors := by simp [hl]
  have hallowed : Allowed past (.sendKill pgid) :=
    ⟨hsweep.ready.clean, hsweep.ready.disabled, hsweep.not_excluded htargets (hsubset hmem),
      hsweep.alive pgid hmem⟩
  refine Ends.bind (Ensures.attempt hallowed fun _ => Ends.pure ?_)
  refine hsweep.cons not_failure_ok trivial fun other hother => ?_
  cases hother
  exact ⟨hsubset hmem, fun h => h.2 hmem⟩

theorem verify_loop {progress : CleanupProgress} {survivors : List ℤ}
    (hsubset : survivors ⊆ groups)
    (h : Sweep server own serverPgid groups (· ∈ groups) (· ∈ survivors)
      (fun pgid => pgid ∈ groups ∧ pgid ∉ survivors) past) :
    Ensures (fun _ past => Sweep server own serverPgid groups (· ∈ groups) (· ∈ survivors)
      (· ∈ groups) past) (survivors.foldlM (verifyDead progress) ()) past := by
  have hloop : Ensures (fun _ past => Sweep server own serverPgid groups (· ∈ groups)
      (· ∈ survivors) (fun pgid => pgid ∈ groups ∧ (pgid ∉ survivors ∨ pgid ∈ survivors)) past)
      (survivors.foldlM (verifyDead progress) ()) past := by
    refine Ends.foldlM (fun finished _ past => Sweep server own serverPgid groups (· ∈ groups)
      (· ∈ survivors) (fun pgid => pgid ∈ groups ∧ (pgid ∉ survivors ∨ pgid ∈ finished)) past) ?_
      (h.mono (fun _ => id) (fun _ => id) fun pgid hpgid => ⟨hpgid.1, by simpa using hpgid.2⟩)
    rintro finished pgid rest - past hl hsweep
    have hmem : pgid ∈ groups := hsubset (by simp [hl])
    refine Ends.bind (Ensures.attempt trivial fun (alive : Bool) => Ensures.check fun halive => ?_)
    have hdead : alive = false := by simpa using refuse_eq_ok.mp halive
    subst hdead
    have hnext := hsweep.cons (c := .processGroupAlive pgid) (r := .ok false) not_failure_ok
      trivial nofun
    refine ⟨hnext.ready, hnext.targeted, hnext.termed, hnext.alive, fun other hother => ?_⟩
    by_cases heq : other = pgid
    · subst heq
      exact ⟨[], past, rfl, ⟨_, hsweep.termed other hmem, rfl⟩, by simp⟩
    · refine hnext.dead other ⟨hother.1, hother.2.imp id fun hdone => ?_⟩
      exact (List.mem_append.mp hdone).resolve_right fun h => heq (List.mem_singleton.mp h)
  exact hloop.mono fun _ past hsweep => hsweep.mono (fun _ => id) (fun _ => id)
    fun pgid hpgid => ⟨hpgid, (Classical.em (pgid ∈ survivors)).symm⟩

theorem killVerified_gone {progress : CleanupProgress}
    (h : Sweep server own serverPgid groups termed alive (· ∈ groups) past) :
    Ensures (fun _ => Gone) (killVerified server progress) past := by
  refine Ends.bind (Ensures.attempt trivial fun presence => ?_)
  have hnext := h.cons (c := .serverPresence server) (r := .ok presence) not_failure_ok trivial
    nofun
  cases presence with
  | absent => exact Ends.pure (Or.inr ⟨server, hnext.ready.resolved, List.mem_cons_self⟩)
  | present =>
    have hallowed : Allowed (⟨.serverPresence server, .ok .present⟩ :: past) .killServer :=
      ⟨hnext.ready.clean, hnext.ready.disabled, hnext.ready.running,
        fun e he pgid hpgid => hnext.dead pgid (hnext.targeted e he pgid hpgid),
        server, past, rfl, h.ready.resolved⟩
    refine Ends.bind (Ends.ask hallowed (fun killed a hkilled => ?_) fun _ _ _ => trivial)
    cases hkilled
    cases killed with
    | ok _ => exact Ends.pure (Or.inl List.mem_cons_self)
    | error error =>
      refine Ends.bind (Ends.ask trivial (fun r presence hr => ?_) fun _ _ _ => trivial)
      obtain rfl := mapError_eq_ok.mp hr
      cases presence with
      | absent =>
        refine Ends.pure (Or.inr ⟨server, ?_, List.mem_cons_self⟩)
        exact List.mem_cons_of_mem _ (List.mem_cons_of_mem _ hnext.ready.resolved)
      | present => exact Ensures.check nofun

theorem waitIf_sweep {needed : Bool} {milliseconds : ℕ}
    (h : Sweep server own serverPgid groups termed alive dead past) :
    Ensures (fun _ past => Sweep server own serverPgid groups termed alive dead past)
      (waitIf needed milliseconds) past := by
  unfold waitIf
  split_ifs
  · exact Ensures.waitFor fun _ => h.wait
  · exact Ends.pure h

theorem killGroups_gone {config : SessionManagerKillConfig} {progress : CleanupProgress}
    (htargets : Targets own serverPgid groups)
    (h : Sweep server own serverPgid groups (fun _ => False) (fun _ => False) (fun _ => False)
      past) :
    Ensures (fun _ => Gone) (killGroups config server groups progress) past := by
  refine Ends.bind ((term_loop htargets h).mono fun progress past hterm => ?_)
  refine Ends.bind ((waitIf_sweep hterm).mono fun _ past hterm => ?_)
  refine Ends.bind ((survivors_loop hterm).mono fun survivors past hsurvivors => ?_)
  obtain ⟨hsubset, hsurvivors⟩ := hsurvivors
  refine Ends.bind ((kill_loop htargets hsubset hsurvivors).mono fun progress past hkill => ?_)
  refine Ends.bind ((waitIf_sweep hkill).mono fun _ past hkill => ?_)
  refine Ends.bind ((verify_loop hsubset hkill).mono fun _ past hdead => ?_)
  exact killVerified_gone hdead

end Sweep

section Cleanup
variable {config : SessionManagerKillConfig}

theorem targets_of_validate {groups : Std.ExtTreeSet ℤ} {own : ProcessIdentity}
    {serverPgid : Option ℤ} (h : validateTargetGroups groups own.pgid serverPgid = .ok ()) :
    Targets own serverPgid groups.toList := by
  intro pgid hpgid
  have hvalid := forM_eq_ok.mp h pgid hpgid
  obtain ⟨hpos, hvalid⟩ := seq_eq_ok.mp hvalid
  obtain ⟨hown, hserver⟩ := seq_eq_ok.mp hvalid
  exact ⟨not_le.mp (refuse_eq_ok.mp hpos), refuse_eq_ok.mp hown, refuse_eq_ok.mp hserver⟩

theorem ctrlC_loop {server : TmuxServerIncarnation} {own : ProcessIdentity}
    {serverPgid : Option ℤ} {past : History} {panes : List PaneProcess}
    {progress : CleanupProgress}
    (h : ∀ groups, Sweep server own serverPgid groups (fun _ => False) (fun _ => False)
      (fun _ => False) past) :
    Ensures (fun _ past => ∀ groups, Sweep server own serverPgid groups (fun _ => False)
      (fun _ => False) (fun _ => False) past) (ctrlCPanes config panes progress) past := by
  unfold ctrlCPanes
  split_ifs
  · have hloop : Ensures (fun _ past => ∀ groups, Sweep server own serverPgid groups
        (fun _ => False) (fun _ => False) (fun _ => False) past)
        (panes.foldlM ctrlCPane progress) past := by
      refine Ends.foldlM (fun _ _ past => ∀ groups, Sweep server own serverPgid groups
        (fun _ => False) (fun _ => False) (fun _ => False) past) ?_ h
      intro finished pane rest progress past hl hsweep
      have hready := (hsweep []).ready
      have hallowed : Allowed past (.sendCtrlC pane.paneId) := ⟨hready.clean, hready.disabled⟩
      refine Ends.bind (Ensures.attempt hallowed fun _ => Ends.pure fun groups => ?_)
      exact (hsweep groups).cons not_failure_ok trivial nofun
    refine Ends.bind (hloop.mono fun progress past hsweep => Ends.bind ?_)
    exact Ensures.waitFor fun _ => Ends.pure fun groups => (hsweep groups).wait
  · exact Ends.pure h

theorem cleanKillServer_gone (config : SessionManagerKillConfig) :
    Ensures (fun _ => Gone) (cleanKillServer config) [] := by
  refine Ends.bind (Ensures.query trivial fun server => ?_)
  refine Ends.bind (Ensures.query trivial fun panes => ?_)
  refine Ends.bind (Ensures.check fun _ => ?_)
  refine Ends.bind (Ensures.query (by simp [Allowed, Call.dangerous]) fun own => ?_)
  refine Ends.bind (Ensures.check fun _ => ?_)
  refine Ends.bind (Ensures.query (by simp [Allowed, Call.dangerous]) fun serverPgid => ?_)
  refine Ends.bind (Ensures.check fun _ => ?_)
  refine Ends.bind (Ensures.query trivial fun initialGroups => ?_)
  refine Ends.bind (Ensures.check fun _ => ?_)
  refine Ends.bind (Ensures.attempt trivial fun _ => ?_)
  -- the preparation is over: six calls, all answered
  have hprepared : ∀ groups, Sweep server own serverPgid groups (fun _ => False)
      (fun _ => False) (fun _ => False)
      [⟨.disableDaemon server, .ok ()⟩, ⟨.processGroups panes, .ok initialGroups⟩,
        ⟨.processGroupForPid server.identity.pid, .ok serverPgid⟩, ⟨.selfProcess, .ok own⟩,
        ⟨.listPanes, .ok panes⟩, ⟨.resolveServer, .ok server⟩] := by
    intro groups
    refine ⟨⟨?_, ⟨server, List.mem_cons_self⟩, by simp [Succeeded], ?_, ?_, ?_⟩, ?_, nofun, nofun,
      nofun⟩
    · simp only [Clean, List.forall_mem_cons, not_failure_ok, not_false_eq_true, true_and]
      exact ⟨not_failure_ok, by simp⟩
    · simp [Succeeded]
    · intro pid other hother
      simp only [Succeeded, List.mem_cons, List.not_mem_nil, Sigma.mk.injEq, reduceCtorEq,
        false_and, false_or, or_false, Call.processGroupForPid.injEq] at hother
      obtain ⟨rfl, heq⟩ := hother
      exact Except.ok.inj (eq_of_heq heq)
    · simp
    · simp [Call.signals]
  refine Ends.bind ((ctrlC_loop hprepared).mono fun progress past hsweep => ?_)
  refine Ends.bind (Ensures.attempt trivial fun groups => ?_)
  refine Ends.bind (Ensures.check fun hvalid => ?_)
  have htargets := targets_of_validate (mapError_eq_ok.mp hvalid)
  exact killGroups_gone htargets
    ((hsweep _).cons not_failure_ok trivial nofun)

end Cleanup

theorem validateProcessIdentity_eq_ok {pid pgid : ℤ} {label : String} :
    validateProcessIdentity pid pgid label = .ok () ↔ 1 < pid ∧ 1 < pgid := by
  unfold validateProcessIdentity withContext validatePgid
  rw [seq_eq_ok, mapError_eq_ok, refuse_eq_ok, refuse_eq_ok, not_le, not_le]

/-- What a table says about the groups of the panes. -/
def TableGroups (panes : List PaneProcess) (lines : List (List Char))
    (before groups : Std.ExtTreeSet ℤ) : Prop :=
  ∃ rows, lines.mapM parseRow = .ok rows ∧
    (∀ row ∈ rows, row.inPanes panes = true → 1 < row.pid ∧ 1 < row.pgid) ∧
    ∀ pgid, pgid ∈ groups ↔
      pgid ∈ before ∨ ∃ row ∈ rows, row.inPanes panes = true ∧ row.pgid = pgid

theorem collectRows_iff {panes : List PaneProcess} {lines : List (List Char)}
    {before groups : Std.ExtTreeSet ℤ} :
    lines.foldlM (collectRow panes) before = .ok groups ↔
      TableGroups panes lines before groups := by
  induction lines generalizing before with
  | nil =>
    constructor
    · intro h
      cases h
      exact ⟨[], rfl, by simp, by simp⟩
    · rintro ⟨rows, hrows, -, hgroups⟩
      cases hrows
      exact congrArg Except.ok (Std.ExtTreeSet.ext_mem fun pgid => by simpa using (hgroups pgid).symm)
  | cons line lines ih =>
    rw [List.foldlM_cons, bind_eq_ok]
    constructor
    · rintro ⟨middle, hmiddle, hrest⟩
      obtain ⟨rows, hrows, hvalid, hgroups⟩ := ih.mp hrest
      obtain ⟨row, hrow, hmiddle⟩ := bind_eq_ok.mp hmiddle
      refine ⟨row :: rows, ?_, ?_, ?_⟩
      · rw [List.mapM_cons, hrow, hrows]
        rfl
      · refine List.forall_mem_cons.mpr ⟨fun hin => ?_, hvalid⟩
        rw [if_pos hin] at hmiddle
        exact validateProcessIdentity_eq_ok.mp (seq_eq_ok.mp hmiddle).1
      · intro pgid
        rw [hgroups]
        split_ifs at hmiddle with hin
        · obtain ⟨-, hmiddle⟩ := seq_eq_ok.mp hmiddle
          cases hmiddle
          simp [hin, or_assoc, or_left_comm]
        · cases hmiddle
          simp [hin]
    · rintro ⟨rows, hrows, hvalid, hgroups⟩
      rw [List.mapM_cons] at hrows
      obtain ⟨row, hrow, hrows⟩ := bind_eq_ok.mp hrows
      obtain ⟨rest, hrest, hrows⟩ := bind_eq_ok.mp hrows
      cases hrows
      obtain ⟨hfirst, hvalid⟩ := List.forall_mem_cons.mp hvalid
      by_cases hin : row.inPanes panes = true
      · refine ⟨before.insert row.pgid, bind_eq_ok.mpr ⟨row, hrow, ?_⟩, ih.mpr ⟨rest, hrest,
          hvalid, fun pgid => ?_⟩⟩
        · rw [if_pos hin]
          exact seq_eq_ok.mpr ⟨validateProcessIdentity_eq_ok.mpr (hfirst hin), rfl⟩
        · rw [hgroups]
          simp [hin, or_assoc, or_left_comm]
      · refine ⟨before, bind_eq_ok.mpr ⟨row, hrow, by rw [if_neg hin]; rfl⟩, ih.mpr ⟨rest, hrest,
          hvalid, fun pgid => ?_⟩⟩
        rw [hgroups]
        simp [hin]

structure SafeCleanup (past : History) (result : Except String Unit) : Prop where
  groups : ∀ e ∈ past, ∀ pgid, e.1.signals = some pgid → ¬Excluded past pgid
  disabled : ∀ later e earlier, past = later ++ e :: earlier → e.1.dangerous →
    DaemonDisabled earlier
  killed : ∀ later pgid r earlier, past = later ++ ⟨.sendKill pgid, r⟩ :: earlier →
    SeenAlive earlier pgid
  server : ∀ later r earlier, past = later ++ ⟨.killServer, r⟩ :: earlier →
    (∀ e ∈ earlier, e.1 ≠ .killServer) ∧
      (∀ e ∈ earlier, ∀ pgid, e.1.signals = some pgid → ReportedDead earlier pgid) ∧
      ∃ server before, earlier = ⟨.serverPresence server, .ok .present⟩ :: before ∧
        Succeeded before .resolveServer server
  stops : ∀ later e earlier, past = later ++ e :: earlier → e.1.dangerous → Clean earlier
  gone : result = .ok () → Gone past

theorem dangerous_of_signals {c : Call} {pgid : ℤ} (h : c.signals = some pgid) : c.dangerous := by
  cases c <;> trivial

theorem allowed_dangerous {c : Call} {past : History} (h : Allowed past c) (hc : c.dangerous) :
    Clean past ∧ DaemonDisabled past := by
  cases c with
  | sendCtrlC paneId => exact h
  | sendTerm pgid => exact ⟨h.1, h.2.1⟩
  | sendKill pgid => exact ⟨h.1, h.2.1⟩
  | killServer => exact ⟨h.1, h.2.1⟩
  | _ => exact hc.elim

theorem allowed_signals {c : Call} {past : History} {pgid : ℤ} (h : Allowed past c)
    (hc : c.signals = some pgid) : ¬Excluded past pgid := by
  cases c with
  | sendTerm other =>
    cases hc
    exact h.2.2
  | sendKill other =>
    cases hc
    exact h.2.2.1
  | _ => cases hc

theorem not_excluded_of_calls {past later earlier : History} {e : Answered Call Reply} {pgid : ℤ}
    (hcalls : ∀ later c r earlier, past = later ++ ⟨c, r⟩ :: earlier → Allowed earlier c)
    (hpast : past = later ++ e :: earlier) (he : e.1.signals = some pgid) :
    ¬Excluded past pgid := by
  have hearlier := allowed_signals (hcalls later e.1 e.2 earlier hpast) he
  -- a report of the own or the server's group after the signal was not allowed
  have hreport : ∀ e' ∈ past, (e'.1 = .selfProcess ∨ ∃ pid, e'.1 = .processGroupForPid pid) →
      e' ∈ earlier := by
    intro e' hmem hreports
    rw [hpast, List.mem_append, List.mem_cons] at hmem
    rcases hmem with hmem | rfl | hmem
    · obtain ⟨front, back, rfl⟩ := List.append_of_mem hmem
      have hquiet := hcalls front e'.1 e'.2 (back ++ e :: earlier) (by simp [hpast])
      have hnone : ∀ x ∈ back ++ e :: earlier, ¬x.1.dangerous := by
        rcases hreports with heq | ⟨pid, heq⟩
        · rw [heq] at hquiet
          exact hquiet
        · rw [heq] at hquiet
          exact hquiet
      exact absurd (dangerous_of_signals he) (hnone e (by simp))
    · rcases hreports with heq | ⟨pid, heq⟩
      · rw [heq] at he
        cases he
      · rw [heq] at he
        cases he
    · exact hmem
  rintro (hle | ⟨own, hown, rfl⟩ | ⟨pid, hpid⟩)
  · exact hearlier (Or.inl hle)
  · exact hearlier (Or.inr (Or.inl ⟨own, hreport _ hown (Or.inl rfl), rfl⟩))
  · exact hearlier (Or.inr (Or.inr ⟨pid, hreport _ hpid (Or.inr ⟨pid, rfl⟩)⟩))

theorem clean_kill_safe (config : SessionManagerKillConfig) :
    (∀ env : History → (c : Call) → Reply c,
      SafeCleanup ((cleanKillServer config).run.run env []).1
        ((cleanKillServer config).run.run env []).2) ∧
      ∀ output panes groups, collectProcessGroupsFromTable output panes = .ok groups ↔
        TableGroups panes (filledLines output) ∅ groups := by
  refine ⟨fun env => ?_, fun output panes groups => collectRows_iff⟩
  have hmeets := cleanKillServer_gone config
  have hcalls := Prog.Meets.calls hmeets env (by simp)
  have hends := Prog.Meets.ends hmeets env
  generalize (cleanKillServer config).run.run env [] = outcome at hcalls hends
  obtain ⟨past, result⟩ := outcome
  refine ⟨?_, ?_, ?_, ?_, ?_, ?_⟩
  · intro e he pgid hpgid
    obtain ⟨later, earlier, hpast⟩ := List.append_of_mem he
    exact not_excluded_of_calls hcalls hpast hpgid
  · intro later e earlier hpast hdangerous
    exact (allowed_dangerous (hcalls later e.1 e.2 earlier hpast) hdangerous).2
  · intro later pgid r earlier hpast
    exact (hcalls later _ r earlier hpast).2.2.2
  · intro later r earlier hpast
    exact (hcalls later _ r earlier hpast).2.2
  · intro later e earlier hpast hdangerous
    exact (allowed_dangerous (hcalls later e.1 e.2 earlier hpast) hdangerous).1
  · rintro rfl
    exact hends

end VdeTmux.SessionManager
