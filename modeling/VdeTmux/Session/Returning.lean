import Mathlib.Tactic.Ring
import VdeTmux.Foundation.Strides
import VdeTmux.Session.Memory

/-!
# Returning to a category

Navigation returns to the session remembered for a client and a category on all lists of sessions
if and only if what is read back under their key is the session remembered last for exactly them.
-/

open Foundation VdeTmux.Category VdeTmux.Daemon
namespace VdeTmux.Session

/-- Sessions as they are listed, with the categories resolved for them. -/
structure CategorizedSessions where
  sessions : List SessionInfo
  categories : ResolvedSessionCategories
  resolved : ∀ session ∈ sessions, ∃ category, categories.categoryFor session = .ok category
  nodup : (sessions.map SessionInfo.name).Nodup

def CategorizedSessions.members (listed : CategorizedSessions) (category : String) : List String :=
  (listed.categories.sessionsInCategory listed.sessions category).map SessionInfo.name

def CategorizedSessions.ShownBy (listed : CategorizedSessions) (snapshot : StatusSnapshot) : Prop :=
  snapshot.context = .global ∧
    snapshot.sessions.map (fun session => (session.sessionName, session.category)) =
      listed.sessions.map fun session =>
        (session.name, (listed.categories.categoryFor session).toOption)

def returnTo (remembered : Option String) (members : List String) : Option String :=
  match remembered with
  | some session => if session ∈ members then some session else members.head?
  | none => members.head?

def goTo (client category : String) (session : Option String) : Except String (List String) :=
  match session with
  | some session => .ok (switchClientForClient client session)
  | none => .error s!"no session in category: {category}"

section Ways
variable (listed : CategorizedSessions) {category : String}

theorem mem_sessionsInCategory {session : SessionInfo} :
    session ∈ listed.categories.sessionsInCategory listed.sessions category ↔
      session ∈ listed.sessions ∧ listed.categories.categoryFor session = .ok category := by
  rw [ResolvedSessionCategories.sessionsInCategory, List.mem_filter]
  cases listed.categories.categoryFor session <;> simp

theorem mem_members {name : String} : name ∈ listed.members category ↔
    ∃ session ∈ listed.sessions, session.name = name ∧
      listed.categories.categoryFor session = .ok category := by
  rw [CategorizedSessions.members, List.mem_map]
  constructor
  · rintro ⟨session, hsession, hname⟩
    obtain ⟨hlisted, hcategory⟩ := (mem_sessionsInCategory listed).mp hsession
    exact ⟨session, hlisted, hname, hcategory⟩
  · rintro ⟨session, hlisted, hname, hcategory⟩
    exact ⟨session, (mem_sessionsInCategory listed).mpr ⟨hlisted, hcategory⟩, hname⟩

theorem nodup_members : (listed.members category).Nodup :=
  listed.nodup.sublist (List.filter_sublist.map _)

theorem findSession_of_mem {session : SessionInfo} (h : session ∈ listed.sessions) :
    findSession listed.sessions session.name = some session := by
  rw [findSession]
  cases hfind : listed.sessions.find? (fun other => other.name = session.name) with
  | none => exact absurd (List.find?_eq_none.mp hfind session h) (by simp)
  | some other =>
    have hname : other.name = session.name := by simpa using List.find?_some hfind
    exact congrArg some
      (List.inj_on_of_nodup_map listed.nodup (List.mem_of_find?_eq_some hfind) h hname)

theorem rememberedInCategory_eq (options : GlobalOptions) (client : String) :
    rememberedInCategory options listed.categories listed.sessions category client =
      .ok ((rememberedSessionForClient options client category).filter fun name =>
        name ∈ listed.members category) := by
  rw [rememberedInCategory]
  cases rememberedSessionForClient options client category with
  | none => rfl
  | some name =>
    dsimp only
    cases hfind : findSession listed.sessions name with
    | none =>
      have hnot : name ∉ listed.members category := by
        rw [mem_members]
        rintro ⟨session, hlisted, rfl, -⟩
        rw [findSession_of_mem listed hlisted] at hfind
        cases hfind
      simp [Option.filter, hnot]
    | some session =>
      have hname : session.name = name := by
        simpa using List.find?_some hfind
      have hlisted : session ∈ listed.sessions := List.mem_of_find?_eq_some hfind
      subst hname
      obtain ⟨resolved, hresolved⟩ := listed.resolved session hlisted
      have hiff : session.name ∈ listed.members category ↔ resolved = category := by
        rw [mem_members]
        constructor
        · rintro ⟨other, hother, hname, hcategory⟩
          obtain rfl := List.inj_on_of_nodup_map listed.nodup hother hlisted hname
          exact Except.ok.inj (hresolved.symm.trans hcategory)
        · rintro rfl
          exact ⟨session, hlisted, rfl, hresolved⟩
      simp only [hresolved, Except.map, Option.filter, hiff, decide_eq_true_eq]

theorem goFirst_eq (client : String) :
    (match (listed.categories.sessionsInCategory listed.sessions category).head? with
      | none => Except.error s!"no session in category: {category}"
      | some session => .ok (switchClientForClient client session.name)) =
      goTo client category (listed.members category).head? := by
  rw [CategorizedSessions.members, List.head?_map]
  cases (listed.categories.sessionsInCategory listed.sessions category).head? <;> rfl

theorem useCategory_sessions_eq (options : GlobalOptions) (client : String) :
    useCategoryForClientFromSessions options listed.categories listed.sessions category client =
      goTo client category
        (returnTo (rememberedSessionForClient options client category)
          (listed.members category)) := by
  rw [useCategoryForClientFromSessions, rememberedInCategory_eq]
  cases rememberedSessionForClient options client category with
  | none => exact goFirst_eq listed client
  | some name =>
    by_cases hmem : name ∈ listed.members category
    · simp only [Option.filter, returnTo, hmem, decide_true, if_true]
      rfl
    · simp only [Option.filter, returnTo, hmem, decide_false, if_false, Bool.false_eq_true]
      exact goFirst_eq listed client

variable {listed}

theorem names_of_shown {snapshot : StatusSnapshot} (h : listed.ShownBy snapshot) :
    (snapshot.sessions.filter fun session => session.category = some category).map
      SessionStatusPresentation.sessionName = listed.members category := by
  have hpairs := congrArg (fun pairs : List (String × Option String) =>
    (pairs.filter fun pair => pair.2 = some category).map Prod.fst) h.2
  simp only [List.filter_map, List.map_map] at hpairs
  refine hpairs.trans ?_
  rw [CategorizedSessions.members, ResolvedSessionCategories.sessionsInCategory]
  change (listed.sessions.filter fun session =>
    decide ((listed.categories.categoryFor session).toOption = some category)).map _ = _
  congr 1
  refine List.filter_congr fun session _ => ?_
  cases listed.categories.categoryFor session <;> simp [Except.toOption]

theorem useCategory_snapshot_eq {snapshot : StatusSnapshot} (h : listed.ShownBy snapshot)
    (options : GlobalOptions) (client : String) :
    useCategoryForClientFromStatusSnapshot options snapshot category client =
      goTo client category
        (returnTo (rememberedSessionForClient options client category)
          (listed.members category)) := by
  have hnames : _ = listed.members category := names_of_shown h
  rw [useCategoryForClientFromStatusSnapshot, if_neg (not_not.mpr h.1), ← hnames]
  cases hsessions : snapshot.sessions.filter fun session => session.category = some category with
  | nil => cases rememberedSessionForClient options client category <;> rfl
  | cons first rest =>
    cases rememberedSessionForClient options client category with
    | none => rfl
    | some name =>
      dsimp only
      cases hfind : (first :: rest).find? (fun session => session.sessionName = name) with
      | none =>
        have hnot : name ∉ (first :: rest).map SessionStatusPresentation.sessionName := by
          intro hmem
          obtain ⟨session, hsession, rfl⟩ := List.mem_map.mp hmem
          exact absurd (List.find?_eq_none.mp hfind session hsession) (by simp)
        rw [returnTo, if_neg hnot]
        rfl
      | some session =>
        have hname : session.sessionName = name := by simpa using List.find?_some hfind
        have hmem : name ∈ (first :: rest).map SessionStatusPresentation.sessionName :=
          List.mem_map.mpr ⟨session, List.mem_of_find?_eq_some hfind, hname⟩
        rw [returnTo, if_pos hmem, ← hname]
        rfl

end Ways

/-- After these calls both ways go to the session remembered last for exactly this client and
category, or to the first one of the category. -/
def Returns (calls : List Remember) (client category : String) : Prop :=
  ∀ listed : CategorizedSessions,
    useCategoryForClientFromSessions (optionsAfter calls) listed.categories listed.sessions category
        client =
      goTo client category
        (returnTo (lastRemembered calls client category) (listed.members category)) ∧
    ∀ snapshot, listed.ShownBy snapshot →
      useCategoryForClientFromStatusSnapshot (optionsAfter calls) snapshot category client =
        goTo client category
          (returnTo (lastRemembered calls client category) (listed.members category))

/-- What is read back under the key is what was remembered last for the client and category. -/
def Undisturbed (calls : List Remember) (client category : String) : Prop :=
  (lastUnderKey calls client category).bind readBack = lastRemembered calls client category

instance (calls : List Remember) (client category : String) :
    Decidable (Undisturbed calls client category) := inferInstanceAs (Decidable (_ = _))

theorem switchClientForClient_injective (client : String) :
    Function.Injective (switchClientForClient client) := by
  intro a b h
  have htarget : exactSessionTarget a = exactSessionTarget b := by
    simp only [switchClientForClient] at h
    split_ifs at h
    · simpa using h
    · simpa using h
  have hchars := congrArg String.toList htarget
  simp only [exactSessionTarget, String.toList_append] at hchars
  exact String.toList_injective (List.append_cancel_left (List.append_cancel_right hchars))

theorem goTo_injective (client category : String) :
    Function.Injective (goTo client category) := by
  intro a b h
  cases a with
  | none =>
    cases b with
    | none => rfl
    | some b => cases h
  | some a =>
    cases b with
    | none => cases h
    | some b => exact congrArg some (switchClientForClient_injective client (Except.ok.inj h))

theorem returnTo_separates {a b : Option String} (h : a ≠ b) :
    ∃ x y, x ≠ y ∧ returnTo a [x, y] ≠ returnTo b [x, y] := by
  have hother : ∀ s : String, s ++ "x" ≠ s := fun s heq => by
    have hlength := congrArg String.length heq
    rw [String.length_append] at hlength
    have hx : "x".length = 1 := rfl
    omega
  cases a with
  | none =>
    cases b with
    | none => exact absurd rfl h
    | some s => exact ⟨s ++ "x", s, hother s, by simp [returnTo, hother]⟩
  | some s =>
    cases b with
    | none => exact ⟨s ++ "x", s, hother s, by simp [returnTo, (hother s).symm]⟩
    | some t =>
      have hne : s ≠ t := fun heq => h (congrArg some heq)
      exact ⟨s, t, hne, by simp [returnTo, hne]⟩

def pairCategories (category : String) : ResolvedSessionCategories :=
  ⟨((∅ : Std.ExtTreeMap String CategoryName).insert "id:$2" category).insert "id:$1" category⟩

theorem categoryFor_pair (category x y : String) {session : SessionInfo}
    (h : session ∈ [(⟨x, "$1"⟩ : SessionInfo), ⟨y, "$2"⟩]) :
    (pairCategories category).categoryFor session = .ok category := by
  rcases List.mem_pair.mp h with rfl | rfl
  · have hid : sessionIdentity ⟨x, "$1"⟩ = "id:$1" := rfl
    rw [ResolvedSessionCategories.categoryFor, hid, pairCategories, Maps.getElem?_insert,
      if_pos rfl]
  · have hid : sessionIdentity ⟨y, "$2"⟩ = "id:$2" := rfl
    rw [ResolvedSessionCategories.categoryFor, hid, pairCategories, Maps.getElem?_insert,
      if_neg (by decide), Maps.getElem?_insert, if_pos rfl]

def pairOf (category x y : String) (h : x ≠ y) : CategorizedSessions where
  sessions := [⟨x, "$1"⟩, ⟨y, "$2"⟩]
  categories := pairCategories category
  resolved _ hsession := ⟨category, categoryFor_pair category x y hsession⟩
  nodup := by simpa using h

theorem members_pairOf (category x y : String) (h : x ≠ y) :
    (pairOf category x y h).members category = [x, y] := by
  have hall : (pairOf category x y h).categories.sessionsInCategory
      (pairOf category x y h).sessions category = (pairOf category x y h).sessions :=
    List.filter_eq_self.mpr fun session hsession => by
      rw [show (pairOf category x y h).categories.categoryFor session = .ok category from
        categoryFor_pair category x y hsession]
      simp
  rw [CategorizedSessions.members, hall]
  rfl

theorem returns_iff (calls : List Remember) (client category : String) :
    Returns calls client category ↔ Undisturbed calls client category := by
  constructor
  · intro h
    by_contra hne
    obtain ⟨x, y, hxy, hsep⟩ := returnTo_separates hne
    have heq := (h (pairOf category x y hxy)).1
    rw [useCategory_sessions_eq, members_pairOf, rememberedSessionForClient_eq] at heq
    exact hsep (goTo_injective _ _ heq)
  · intro h listed
    have hremembered : rememberedSessionForClient (optionsAfter calls) client category =
        lastRemembered calls client category := (rememberedSessionForClient_eq _ _ _).trans h
    refine ⟨?_, fun snapshot hshown => ?_⟩
    · rw [useCategory_sessions_eq, hremembered]
    · rw [useCategory_snapshot_eq hshown, hremembered]

theorem undisturbed_of_plain {calls : List Remember} {client category : String}
    (hkeys : ∀ r ∈ calls, r.clientName = client →
      safeCategory r.category = safeCategory category → r.category = category)
    (hnames : ∀ r ∈ calls, readBack r.sessionName = some r.sessionName) :
    Undisturbed calls client category := by
  have hfilter : (calls.filter fun r => r.clientName = client ∧
      safeCategory r.category = safeCategory category) =
        calls.filter fun r => r.clientName = client ∧ r.category = category :=
    List.filter_congr fun r hr => decide_eq_decide.mpr
      ⟨fun h => ⟨h.1, hkeys r hr h.1 h.2⟩, fun h => ⟨h.1, congrArg safeCategory h.2⟩⟩
  rw [Undisturbed, lastUnderKey, hfilter, lastRemembered]
  cases hlast : (calls.filter fun r => r.clientName = client ∧ r.category = category).getLast? with
  | none => rfl
  | some r => exact hnames r (List.mem_of_mem_filter (List.mem_of_getLast? hlast))

def cycleTimes (listed : CategorizedSessions) (client : String) (direction : Direction) :
    ℕ → String → Except String (List Remember)
  | 0, _ => .ok []
  | n + 1, current =>
    match cycleSessionResolved listed.categories listed.sessions current client direction with
    | .error error => .error error
    | .ok (_, r) => (cycleTimes listed client direction n r.sessionName).map (r :: ·)

def Direction.stride : Direction → ℕ → ℕ
  | .next, _ => 1
  | .previous, n => n - 1

theorem Direction.stride_coprime (direction : Direction) {n : ℕ} (h : 0 < n) :
    Nat.Coprime n (direction.stride n) := by
  cases direction with
  | next => exact Nat.coprime_one_right n
  | previous => exact (Nat.coprime_self_sub_right h).mpr (Nat.coprime_one_right n)

theorem Direction.nextIndex_eq (direction : Direction) (i : ℕ) {n : ℕ} (h : 0 < n) :
    direction.nextIndex i n = (i + direction.stride n) % n := by
  cases direction with
  | next => rfl
  | previous =>
    rw [Direction.nextIndex, Direction.stride, Nat.add_sub_assoc h]

section Cycle
variable (listed : CategorizedSessions) {category : String} (client : String)
  (direction : Direction)

theorem cycleSession_eq {i : ℕ} {current : String}
    (hi : (listed.members category)[i]? = some current) :
    ∃ r : Remember, cycleSessionResolved listed.categories listed.sessions current client
        direction = .ok (switchClientForClient client r.sessionName, r) ∧
      r.clientName = client ∧ r.category = category ∧
      (listed.members category)[(i + direction.stride (listed.members category).length) %
        (listed.members category).length]? = some r.sessionName := by
  have hlt : i < (listed.members category).length := (List.getElem?_eq_some_iff.mp hi).1
  have hlength : (listed.members category).length =
      (listed.categories.sessionsInCategory listed.sessions category).length := List.length_map _
  obtain ⟨session, hsession, hname, hcategory⟩ :=
    (mem_members listed).mp (List.mem_of_getElem? hi)
  have hfind : findSession listed.sessions current = some session :=
    hname ▸ findSession_of_mem listed hsession
  have hne : listed.categories.sessionsInCategory listed.sessions category ≠ [] := by
    intro hnil
    rw [hnil] at hlength
    rw [hlength] at hlt
    exact absurd hlt (Nat.not_lt_zero _)
  have hindex : (listed.categories.sessionsInCategory listed.sessions category).findIdx?
      (fun other => other.name = current) = some i := by
    rw [List.findIdx?_eq_some_iff_getElem]
    have hi' : ∀ j (hj : j < (listed.categories.sessionsInCategory listed.sessions
        category).length), ((listed.categories.sessionsInCategory listed.sessions category).get
          ⟨j, hj⟩).name = (listed.members category).get ⟨j, hlength ▸ hj⟩ := fun j hj => by
      simp [CategorizedSessions.members]
    have hcurrent : (listed.members category).get ⟨i, hlt⟩ = current :=
      (List.getElem?_eq_some_iff.mp hi).2
    refine ⟨hlength ▸ hlt, ?_, fun j hj => ?_⟩
    · simpa using (hi' i (hlength ▸ hlt)).trans hcurrent
    · have hjlt : j < (listed.members category).length := hj.trans hlt
      have hneq : (listed.members category).get ⟨j, hjlt⟩ ≠ current := fun heq => by
        have := (List.Nodup.get_inj_iff (nodup_members listed)).mp (heq.trans hcurrent.symm)
        exact absurd (congrArg Fin.val this) (Nat.ne_of_lt hj)
      simpa using fun heq => hneq ((hi' j (hlength ▸ hjlt)).symm.trans heq)
  have hnext := direction.nextIndex_eq i (Nat.zero_lt_of_lt hlt)
  refine ⟨⟨client, category, ((listed.categories.sessionsInCategory listed.sessions category).map
    SessionInfo.name).getD ((i + direction.stride (listed.members category).length) %
      (listed.members category).length) ""⟩, ?_, rfl, rfl, ?_⟩
  · rw [cycleSessionResolved, hfind]
    dsimp only
    rw [hcategory]
    dsimp only
    rw [if_neg hne, hindex, Option.getD_some, ← hlength, hnext]
  · have hmod := Nat.mod_lt (i + direction.stride (listed.members category).length)
      (Nat.zero_lt_of_lt hlt)
    change _ = some ((listed.members category).getD _ "")
    rw [List.getD_eq_getElem?_getD, List.getElem?_eq_getElem hmod]
    rfl

theorem cycleTimes_eq (n : ℕ) {i : ℕ} {current : String}
    (hi : (listed.members category)[i]? = some current) :
    ∃ calls, cycleTimes listed client direction n current = .ok calls ∧
      (∀ r ∈ calls, r.clientName = client ∧ r.category = category) ∧
      calls.map (fun r => some r.sessionName) = (List.range n).map fun k =>
        (listed.members category)[(i + (k + 1) * direction.stride
          (listed.members category).length) % (listed.members category).length]? := by
  induction n generalizing i current with
  | zero => exact ⟨[], rfl, fun r hr => absurd hr List.not_mem_nil, rfl⟩
  | succ n ih =>
    obtain ⟨r, hcycle, hclient, hcategory, hplace⟩ := cycleSession_eq listed client direction hi
    obtain ⟨calls, hcalls, hown, hwalk⟩ := ih hplace
    refine ⟨r :: calls, ?_, List.forall_mem_cons.mpr ⟨⟨hclient, hcategory⟩, hown⟩, ?_⟩
    · simp only [cycleTimes, hcycle, hcalls]
      rfl
    · rw [List.map_cons, List.range_succ_eq_map, List.map_cons, List.map_map, hwalk]
      refine congrArg₂ List.cons ?_ (List.map_congr_left fun k _ => ?_)
      · rw [← hplace, Nat.zero_add, Nat.one_mul]
      · rw [Function.comp_apply, Nat.mod_add_mod, Nat.succ_eq_add_one]
        congr 2
        ring

end Cycle

/-- A round of cycles from a session of the category: each cycle switches to the session that it
remembers, every session comes once, and the last one is the one of the start. -/
def CyclesRound (client category : String) : Prop :=
  ∀ (listed : CategorizedSessions) (direction : Direction),
    ∀ current ∈ listed.members category,
      (∃ r : Remember, cycleSessionResolved listed.categories listed.sessions current client
          direction = .ok (switchClientForClient client r.sessionName, r) ∧
        ∀ calls, lastRemembered (calls ++ [r]) client category = some r.sessionName) ∧
      ∃ calls, cycleTimes listed client direction (listed.members category).length current =
          .ok calls ∧
        (∀ r ∈ calls, r.clientName = client ∧ r.category = category) ∧
        (calls.map Remember.sessionName).Perm (listed.members category) ∧
        (calls.map Remember.sessionName).getLast? = some current

theorem map_some_getElem? (l : List String) :
    (List.range l.length).map (fun i => l[i]?) = l.map some := by
  refine List.ext_getElem? fun i => ?_
  rw [List.getElem?_map, List.getElem?_map]
  by_cases hi : i < l.length
  · simp [hi]
  · simp [hi]

theorem cycles_round (client category : String) : CyclesRound client category := by
  intro listed direction current hcurrent
  obtain ⟨i, hi⟩ := List.getElem?_of_mem hcurrent
  have hlt : i < (listed.members category).length := (List.getElem?_eq_some_iff.mp hi).1
  refine ⟨?_, ?_⟩
  · obtain ⟨r, hcycle, rfl, rfl, -⟩ := cycleSession_eq listed client direction hi
    exact ⟨r, hcycle, fun calls => lastRemembered_concat calls r⟩
  · obtain ⟨calls, hcalls, hown, hwalk⟩ :=
      cycleTimes_eq listed client direction (listed.members category).length hi
    have hplaces : (calls.map Remember.sessionName).map some =
        (strides (listed.members category).length
          (direction.stride (listed.members category).length) i).map fun place =>
            (listed.members category)[place]? := by
      rw [List.map_map, strides, List.map_map]
      exact hwalk
    have hsome : Function.Injective (some : String → Option String) := Option.some_injective _
    refine ⟨calls, hcalls, hown, ?_, ?_⟩
    · have hperm := (strides_perm (direction.stride_coprime (Nat.zero_lt_of_lt hlt)) i).map
        fun place => (listed.members category)[place]?
      rw [← hplaces, map_some_getElem?] at hperm
      exact (List.map_perm_map_iff hsome).mp hperm
    · have hlast : (calls.map Remember.sessionName).getLast?.map some =
          (some i).map fun place => (listed.members category)[place]? := by
        rw [← List.getLast?_map, hplaces, List.getLast?_map, getLast?_strides hlt]
      rw [Option.map_some, hi] at hlast
      cases hend : (calls.map Remember.sessionName).getLast? with
      | none =>
        rw [hend] at hlast
        cases hlast
      | some last =>
        rw [hend] at hlast
        exact Option.some.inj hlast

/-- Navigation keeps its promise for a client and a category exactly when what is read back for
them is what was remembered for them. This is so when the client remembered for no other category of
the same encoding and every name is read back as it is. -/
theorem navigation_returns_iff (calls : List Remember) (client category : String) :
    ((Returns calls client category ∧ CyclesRound client category) ↔
      Undisturbed calls client category) ∧
    ((∀ r ∈ calls, r.clientName = client →
        safeCategory r.category = safeCategory category → r.category = category) →
      (∀ r ∈ calls, readBack r.sessionName = some r.sessionName) →
        Undisturbed calls client category) := by
  refine ⟨?_, undisturbed_of_plain⟩
  rw [returns_iff, and_iff_left (cycles_round client category)]

/-- Two categories of names without ASCII letters share a key, so that the session of one is
returned to in the other. -/
theorem navigation_confuses :
    ∃ calls client category, CategoryName.parse category = .ok category ∧
      (∀ r ∈ calls, CategoryName.parse r.category = .ok r.category) ∧
      ¬(Returns calls client category ∧ CyclesRound client category) := by
  refine ⟨[⟨"c", "仕事", "a"⟩, ⟨"c", "私用", "b"⟩], "c", "仕事", rfl, fun r hr => ?_, ?_⟩
  · rcases List.mem_pair.mp hr with rfl | rfl
    · rfl
    · rfl
  · rw [(navigation_returns_iff _ _ _).1]
    decide

end VdeTmux.Session
