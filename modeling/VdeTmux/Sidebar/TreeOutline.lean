import Mathlib.Tactic.Ring
import VdeTmux.Sidebar.TreeRows

/-!
# The outlines of the presentations

Which panes the triage zone, the flat list, the priority sections, the repositories and the
categories show, and under which container rows.
-/

open Foundation Foundation.Outline VdeTmux.Pane VdeTmux.Category
namespace VdeTmux.Sidebar

theorem isHead_of_mark {row : SidebarRow} {mark : List Char}
    (hkind : row.kind ≠ .chat ∧ row.kind ≠ .detail) (hmark : idMark row.id = mark)
    (hne : mark ≠ ['c', 'h'] ∧ mark ≠ ['d', 'e']) : IsHead row :=
  ⟨hkind, by rwa [hmark]⟩

theorem isHead_of_zone {row : SidebarRow} (hkind : row.kind = .zone)
    (hmark : idMark row.id = ['z', 'o']) : IsHead row :=
  isHead_of_mark (by simp [hkind]) hmark (by decide)

theorem isHead_of_repo {row : SidebarRow} (hkind : row.kind = .repo)
    (hmark : idMark row.id = ['r', 'e']) : IsHead row :=
  isHead_of_mark (by simp [hkind]) hmark (by decide)

theorem zone_outlined {panes : List AgentPane} {head : SidebarRow}
    {f : AgentPane → List SidebarRow} (hkind : head.kind = .zone) (hdepth : head.depth = 0)
    (hmark : idMark head.id = ['z', 'o']) (hcount : head.chatCount = panes.length)
    (hf : ∀ pane ∈ panes, IsBlock pane 1 (f pane)) :
    Outlined 0 [head] panes (head :: panes.flatMap f) := by
  have hbody := Outlined.ofBlocks hf
  refine hbody.under hdepth Nat.zero_lt_one (isHead_of_zone hkind hmark) ?_
  rw [Counted, hkind, hbody.countP_chats]
  exact hcount

def triageHead (panes : List AgentPane) : List SidebarRow :=
  if panes = [] then [] else [containerRow triageZoneId .zone 0 "TRIAGE" panes]

theorem triage_outlined (panes : List AgentPane) (state : SidebarState) (now : ℤ) :
    Outlined 0 (triageHead panes) panes (triageZoneRows panes state now) := by
  unfold triageHead triageZoneRows
  split_ifs with hpanes
  · rw [hpanes]
    exact Outlined.nil
  · have hmark : idMark triageZoneId = ['z', 'o'] := by decide
    exact zone_outlined rfl rfl hmark rfl fun pane _ => triageChatRows_isBlock state now

theorem orderAgentPanes_perm (panes : List AgentPane) (order : SidebarPreferences) :
    (orderAgentPanes panes order).Perm panes := sortBy_perm panes

theorem flat_outlined (groups : Groups) (state : SidebarState) (order : SidebarPreferences)
    (now : ℤ) (showOrigin : Bool) :
    Outlined 0 [] (groupedPanes groups) (flatRows groups state order now showOrigin) :=
  (Outlined.ofBlocks fun _ _ => chatRows_isBlock state now showOrigin true).perm
    (List.Perm.refl _) (orderAgentPanes_perm _ order)

def PrioritySection.head (s : PrioritySection) (panes : List AgentPane) : List SidebarRow :=
  if panes = [] then []
  else [{ containerRow s!"zone::priority::{s.key}" .zone 0 s.label panes with badgeState := s.badge }]

theorem section_mark (s : PrioritySection) : idMark s!"zone::priority::{s.key}" = ['z', 'o'] := by
  have hid : s!"zone::priority::{s.key}" = "zone::priority::" ++ s.key := rfl
  rw [hid, idMark_append _ _ (by decide)]
  decide

theorem section_outlined (s : PrioritySection) (panes : List AgentPane) (state : SidebarState)
    (now : ℤ) : Outlined 0 (s.head panes) panes (s.rows panes state now) := by
  unfold PrioritySection.head PrioritySection.rows
  split_ifs with hpanes
  · rw [hpanes]
    exact Outlined.nil
  · exact zone_outlined rfl rfl (section_mark s) rfl fun pane _ =>
      priorityChatRows_isBlock state now

theorem sections_take (pane : AgentPane) :
    (prioritySections.tail.filter fun s => s.takes pane).length = 1 := by
  unfold prioritySections PrioritySection.takes
  cases pane.badgeState <;> cases pane.question <;> rfl

theorem count_flatMap_filter {α β : Type} [DecidableEq α] (l : List α) (m : List β)
    (p : β → α → Bool) (a : α) : (m.flatMap fun b => l.filter (p b)).count a =
      (m.filter fun b => p b a).length * l.count a := by
  induction m with
  | nil => simp
  | cons b m ih =>
    rw [List.flatMap_cons, List.count_append, ih]
    by_cases hb : p b a = true
    · have hkeep : (b :: m).filter (fun b => p b a) = b :: m.filter fun b => p b a :=
        List.filter_cons_of_pos hb
      rw [List.count_filter hb, hkeep, List.length_cons]
      ring
    · have hnot : a ∉ l.filter (p b) := fun hmem => hb (List.mem_filter.mp hmem).2
      have hdrop : (b :: m).filter (fun b => p b a) = m.filter fun b => p b a :=
        List.filter_cons_of_neg hb
      rw [List.count_eq_zero_of_not_mem hnot, hdrop, zero_add]

theorem flatMap_filter_perm {α β : Type} [DecidableEq α] {l : List α} {m : List β}
    {p : β → α → Bool} (h : ∀ a ∈ l, (m.filter fun b => p b a).length = 1) :
    (m.flatMap fun b => l.filter (p b)).Perm l := by
  refine List.perm_iff_count.mpr fun a => ?_
  rw [count_flatMap_filter]
  by_cases ha : a ∈ l
  · rw [h a ha, one_mul]
  · rw [List.count_eq_zero_of_not_mem ha, mul_zero]

theorem sections_perm (panes : List AgentPane) : (prioritySections.flatMap fun s =>
    s.panes (panes.filter (·.pinned)) (panes.filter (!·.pinned))).Perm panes := by
  have hsplit : (panes.filter (·.pinned) ++ panes.filter (!·.pinned)).Perm panes :=
    List.filter_append_perm _ panes
  have hrest : (prioritySections.tail.flatMap fun s =>
      s.panes (panes.filter (·.pinned)) (panes.filter (!·.pinned))) =
      prioritySections.tail.flatMap fun s => (panes.filter (!·.pinned)).filter s.takes := by
    simp [prioritySections, PrioritySection.panes]
  refine List.Perm.trans ?_ hsplit
  have hcons : prioritySections = ⟨"pinned", "PINNED", none⟩ :: prioritySections.tail := rfl
  rw [hcons, List.flatMap_cons, hrest]
  exact (flatMap_filter_perm fun pane _ => sections_take pane).append_left _

def priorityHeads (groups : Groups) (order : SidebarPreferences) : List SidebarRow :=
  let panes := orderAgentPanes (groupedPanes groups) order
  prioritySections.flatMap fun s =>
    s.head (s.panes (panes.filter (·.pinned)) (panes.filter (!·.pinned)))

theorem priority_outlined (groups : Groups) (state : SidebarState) (order : SidebarPreferences)
    (now : ℤ) : Outlined 0 (priorityHeads groups order) (groupedPanes groups)
      (priorityRows groups state order now) :=
  (Outlined.flatMap fun s _ => section_outlined s _ state now).perm (List.Perm.refl _)
    ((sections_perm _).trans (orderAgentPanes_perm _ order))

theorem priority_heads_nodup (groups : Groups) (order : SidebarPreferences) :
    ((priorityHeads groups order).map (·.id)).Nodup := by
  have hnodup : (prioritySections.map fun s => s!"zone::priority::{s.key}").Nodup := by decide
  have hsub (f : PrioritySection → List AgentPane) (l : List PrioritySection) :
      ((l.flatMap fun s => s.head (f s)).map (·.id)).Sublist
        (l.map fun s => s!"zone::priority::{s.key}") := by
    induction l with
    | nil => exact List.Sublist.refl _
    | cons s l ih =>
      rw [List.flatMap_cons, List.map_append, List.map_cons]
      unfold PrioritySection.head at ih ⊢
      split_ifs
      · exact ih.cons _
      · exact ih.cons_cons _
  exact hnodup.sublist (hsub _ _)

end VdeTmux.Sidebar
