import VdeTmux.Foundation.Writer
import VdeTmux.Sidebar.Tree

/-!
# The ids of the rows

An id begins with the kind of its row. The id of a chat row tells its pane, and that of a detail row
its pane and what it is about. The id of a repository row does not tell the category from the
repository.
-/

open Foundation VdeTmux.Pane VdeTmux.Category
namespace VdeTmux.Sidebar

theorem before_colon_inj {s t xs ys : List Char} (hs : ':' ∉ s) (ht : ':' ∉ t)
    (h : s ++ ':' :: xs = t ++ ':' :: ys) : s = t ∧ xs = ys := by
  induction s generalizing t with
  | nil =>
    cases t with
    | nil => exact ⟨rfl, (List.cons.inj h).2⟩
    | cons c t => exact absurd ((List.cons.inj h).1 ▸ List.mem_cons_self) ht
  | cons c s ih =>
    obtain ⟨hc, hs⟩ := not_or.mp (fun h' => hs (List.mem_cons.mpr h'))
    cases t with
    | nil => exact absurd (List.cons.inj h).1.symm hc
    | cons c' t =>
      obtain ⟨rfl, htail⟩ := List.cons.inj h
      obtain ⟨rfl, hxs⟩ := ih hs (fun h' => ht (List.mem_cons_of_mem _ h')) htail
      exact ⟨rfl, hxs⟩

theorem last_field_inj {a b s t : String} (hs : ':' ∉ s.toList) (ht : ':' ∉ t.toList)
    (h : a ++ "::" ++ s = b ++ "::" ++ t) : a = b ∧ s = t := by
  have hlist := congrArg (fun x : String => x.toList.reverse) h
  simp only [String.toList_append, List.reverse_append] at hlist
  have hcolons : "::".toList.reverse = [':', ':'] := by decide
  rw [hcolons] at hlist
  obtain ⟨hlast, hfirst⟩ := before_colon_inj (by simpa using hs) (by simpa using ht) hlist
  have hfront : a.toList.reverse = b.toList.reverse := (List.cons.inj hfirst).2
  exact ⟨String.toList_inj.mp (List.reverse_injective hfront),
    String.toList_inj.mp (List.reverse_injective hlast)⟩

theorem toList_toString (n : ℕ) : (toString n).toList = Writer.digits n :=
  String.toList_ofList

theorem colon_not_mem_toString (n : ℕ) : ':' ∉ (toString n).toList := by
  intro h
  rw [toList_toString] at h
  exact absurd (Writer.isDigit_of_mem h) (by decide)

theorem toString_inj {n m : ℕ} (h : toString n = toString m) : n = m := by
  refine Writer.digits_injective ?_
  rw [← toList_toString, ← toList_toString, h]

theorem chatRowId_eq (pane : PaneInstance) :
    chatRowId pane = "chat::" ++ pane.paneId ++ "::" ++ toString pane.panePid := rfl

def detailStem (pane : PaneInstance) : String :=
  "detail::" ++ pane.paneId ++ "::" ++ toString pane.panePid

theorem detailRowId_eq (pane : PaneInstance) (detail : Detail) :
    detailRowId pane detail = detailStem pane ++ "::" ++ detail.suffix := rfl

theorem pane_eq_of_fields {pane pane' : PaneInstance} {start : String}
    (h : start ++ pane.paneId ++ "::" ++ toString pane.panePid =
      start ++ pane'.paneId ++ "::" ++ toString pane'.panePid) : pane = pane' := by
  obtain ⟨hfront, hpid⟩ :=
    last_field_inj (colon_not_mem_toString _) (colon_not_mem_toString _) h
  have hid : pane.paneId = pane'.paneId := String.append_right_inj start |>.mp hfront
  obtain ⟨paneId, panePid⟩ := pane
  obtain ⟨paneId', panePid'⟩ := pane'
  obtain rfl : paneId = paneId' := hid
  obtain rfl : panePid = panePid' := toString_inj hpid
  rfl

theorem chatRowId_injective : Function.Injective chatRowId := fun _ _ h => pane_eq_of_fields h

theorem detailStem_injective : Function.Injective detailStem := fun _ _ h => pane_eq_of_fields h

def plainDetails : List Detail :=
  [.origin, .questionNotice, .questionHealth, .summaryLoading, .summary, .signal, .awaitingResult,
    .awaitingRegistry, .cron, .background, .response, .worktreeActivity]

theorem plainDetails_nodup : plainDetails.Nodup := by decide

theorem plain_suffixes_nodup : (plainDetails.map Detail.suffix).Nodup := by decide

theorem plain_suffix_inj {detail detail' : Detail} (h : detail ∈ plainDetails)
    (h' : detail' ∈ plainDetails) (heq : detail.suffix = detail'.suffix) : detail = detail' :=
  List.inj_on_of_nodup_map plain_suffixes_nodup h h' heq

def Detail.lastField : Detail → String
  | .task _ status => taskStatusKey status
  | .subagent index => toString index
  | detail => detail.suffix

def Detail.stem (pane : PaneInstance) : Detail → String
  | .task index _ => detailStem pane ++ "::" ++ "task" ++ "::" ++ toString index
  | .subagent _ => detailStem pane ++ "::" ++ "subagent"
  | _ => detailStem pane

theorem detailRowId_fields (pane : PaneInstance) (detail : Detail) :
    detailRowId pane detail = detail.stem pane ++ "::" ++ detail.lastField := by
  rw [detailRowId_eq]
  cases detail with
  | task index status =>
    have hsuffix : Detail.suffix (.task index status) =
        "task::" ++ toString index ++ "::" ++ taskStatusKey status := rfl
    have hcolons : "task::" = "task" ++ "::" := by decide
    rw [hsuffix, hcolons]
    simp only [Detail.stem, Detail.lastField, String.append_assoc]
  | subagent index =>
    have hsuffix : Detail.suffix (.subagent index) = "subagent::" ++ toString index := rfl
    have hcolons : "subagent::" = "subagent" ++ "::" := by decide
    rw [hsuffix, hcolons]
    simp only [Detail.stem, Detail.lastField, String.append_assoc]
  | _ => rfl

theorem Detail.plain_or_numbered (detail : Detail) : detail ∈ plainDetails ∨
    (∃ index status, detail = .task index status) ∨ ∃ index, detail = .subagent index := by
  cases detail with
  | task index status => exact Or.inr (Or.inl ⟨index, status, rfl⟩)
  | subagent index => exact Or.inr (Or.inr ⟨index, rfl⟩)
  | _ => exact Or.inl (by decide)

theorem plain_fields {detail : Detail} (h : detail ∈ plainDetails) (pane : PaneInstance) :
    detail.lastField = detail.suffix ∧ detail.stem pane = detailStem pane := by
  cases detail with
  | task index status => simp [plainDetails] at h
  | subagent index => simp [plainDetails] at h
  | _ => exact ⟨rfl, rfl⟩

theorem exists_of_any {s : String} (h : (s.toList.any fun c => !c.isDigit) = true) :
    ∃ c ∈ s.toList, c.isDigit = false := by
  obtain ⟨c, hc, hdigit⟩ := List.any_eq_true.mp h
  exact ⟨c, hc, (Bool.not_eq_true' _).mp hdigit⟩

theorem plain_suffix_spec {detail : Detail} (h : detail ∈ plainDetails) :
    ':' ∉ detail.suffix.toList ∧ (∃ c ∈ detail.suffix.toList, c.isDigit = false) ∧
      ∀ status, detail.suffix ≠ taskStatusKey status := by
  have hall : ∀ detail ∈ plainDetails, ':' ∉ detail.suffix.toList ∧
      (detail.suffix.toList.any fun c => !c.isDigit) = true ∧
      detail.suffix ∉ [taskStatusKey .completed, taskStatusKey .inProgress,
        taskStatusKey .pending] := by decide
  obtain ⟨hcolon, hdigit, hstatus⟩ := hall detail h
  refine ⟨hcolon, exists_of_any hdigit, fun status heq => hstatus ?_⟩
  rw [heq]
  cases status <;> decide

theorem taskStatusKey_spec (status : TaskItemStatus) : ':' ∉ (taskStatusKey status).toList ∧
    ∃ c ∈ (taskStatusKey status).toList, c.isDigit = false := by
  refine ⟨?_, exists_of_any ?_⟩
  · cases status <;> decide
  · cases status <;> decide

theorem taskStatusKey_injective : Function.Injective taskStatusKey := by
  intro status status' h
  cases status <;> cases status' <;> first | rfl | exact absurd h (by decide)

theorem Detail.lastField_plain (detail : Detail) : ':' ∉ detail.lastField.toList := by
  rcases detail.plain_or_numbered with h | ⟨index, status, rfl⟩ | ⟨index, rfl⟩
  · rw [(plain_fields h ⟨"", 0⟩).1]
    exact (plain_suffix_spec h).1
  · exact (taskStatusKey_spec status).1
  · exact colon_not_mem_toString index

theorem ne_toString {s : String} (h : ∃ c ∈ s.toList, c.isDigit = false) (n : ℕ) :
    s ≠ toString n := by
  rintro rfl
  obtain ⟨c, hc, hdigit⟩ := h
  rw [toList_toString] at hc
  rw [Writer.isDigit_of_mem hc] at hdigit
  cases hdigit

theorem detailRowId_inj {pane pane' : PaneInstance} {detail detail' : Detail}
    (h : detailRowId pane detail = detailRowId pane' detail') :
    pane = pane' ∧ detail = detail' := by
  rw [detailRowId_fields, detailRowId_fields] at h
  obtain ⟨hstem, hlast⟩ := last_field_inj detail.lastField_plain detail'.lastField_plain h
  rcases detail.plain_or_numbered with hd | ⟨index, status, rfl⟩ | ⟨index, rfl⟩
  · rw [(plain_fields hd pane).1] at hlast
    rw [(plain_fields hd pane).2] at hstem
    rcases detail'.plain_or_numbered with hd' | ⟨index', status', rfl⟩ | ⟨index', rfl⟩
    · rw [(plain_fields hd' pane').1] at hlast
      rw [(plain_fields hd' pane').2] at hstem
      exact ⟨detailStem_injective hstem, plain_suffix_inj hd hd' hlast⟩
    · exact absurd hlast ((plain_suffix_spec hd).2.2 status')
    · exact absurd hlast (ne_toString (plain_suffix_spec hd).2.1 index')
  · rcases detail'.plain_or_numbered with hd' | ⟨index', status', rfl⟩ | ⟨index', rfl⟩
    · rw [(plain_fields hd' pane').1] at hlast
      exact absurd hlast.symm ((plain_suffix_spec hd').2.2 status)
    · obtain rfl : status = status' := taskStatusKey_injective hlast
      obtain ⟨htask, hindex⟩ :=
        last_field_inj (colon_not_mem_toString index) (colon_not_mem_toString index') hstem
      obtain rfl := toString_inj hindex
      obtain ⟨hpane, -⟩ := last_field_inj (by decide) (by decide) htask
      exact ⟨detailStem_injective hpane, rfl⟩
    · exact absurd hlast (ne_toString (taskStatusKey_spec status).2 index')
  · rcases detail'.plain_or_numbered with hd' | ⟨index', status', rfl⟩ | ⟨index', rfl⟩
    · rw [(plain_fields hd' pane').1] at hlast
      exact absurd hlast.symm (ne_toString (plain_suffix_spec hd').2.1 index)
    · exact absurd hlast.symm (ne_toString (taskStatusKey_spec status').2 index)
    · obtain rfl : index = index' := toString_inj hlast
      obtain ⟨hpane, -⟩ := last_field_inj (by decide) (by decide) hstem
      exact ⟨detailStem_injective hpane, rfl⟩

def idMark (id : String) : List Char := id.toList.take 2

theorem idMark_append (start rest : String) (h : 2 ≤ start.toList.length) :
    idMark (start ++ rest) = idMark start := by
  rw [idMark, String.toList_append, List.take_append_of_le_length h]
  rfl

theorem idMark_chat (pane : PaneInstance) : idMark (chatRowId pane) = ['c', 'h'] := by
  rw [chatRowId_eq, String.append_assoc, String.append_assoc, idMark_append _ _ (by decide)]
  decide

theorem idMark_detail (pane : PaneInstance) (detail : Detail) :
    idMark (detailRowId pane detail) = ['d', 'e'] := by
  rw [detailRowId_eq, detailStem, String.append_assoc, String.append_assoc, String.append_assoc,
    String.append_assoc, idMark_append _ _ (by decide)]
  decide

theorem idMark_category (category : String) : idMark (categoryId category) = ['c', 'a'] := by
  have hid : categoryId category = "category::" ++ category := rfl
  rw [hid, idMark_append _ _ (by decide)]
  decide

theorem repoId_eq (category : String) (repo : RepoKey) :
    repoId category repo = "repo::" ++ (category ++ "::" ++ repo) := by
  have hid : repoId category repo = "repo::" ++ category ++ "::" ++ repo := rfl
  rw [hid]
  simp only [String.append_assoc]

theorem idMark_repo (category : String) (repo : RepoKey) :
    idMark (repoId category repo) = ['r', 'e'] := by
  rw [repoId_eq, idMark_append _ _ (by decide)]
  decide

theorem categoryId_injective : Function.Injective categoryId := fun _ _ h =>
  (String.append_right_inj "category::").mp h

theorem repoId_inj {category : String} {repo repo' : RepoKey}
    (h : repoId category repo = repoId category repo') : repo = repo' := by
  rw [repoId_eq, repoId_eq] at h
  exact (String.append_right_inj (category ++ "::")).mp ((String.append_right_inj _).mp h)

end VdeTmux.Sidebar
