import GroutCni.Cni.Handler
import GroutCni.Node.World

/-!
# CHECK

`HandleCheck` only looks: whatever fails and wherever it is cut short, tables, reservations
and socket files stay as they are.
-/

namespace GroutCni

open Effect

theorem World.Effect.inspection {o : Op} {v : o.Val} {w w' : World} (ho : o.IsInspection)
    (h : World.Effect w o v w') :
  ∃ links, w' = { w with links }
  := by
  rcases ho with ho | ⟨req, rfl⟩ | ⟨path, rfl⟩
  · exact h.netlink ho
  · exact ⟨w.links, h.2⟩
  · exact ⟨w.links, h.2⟩

theorem handleCheckBody_uses (conf : PluginConf) (args : CmdArgs) :
  (handleCheckBody conf args).Uses Op.IsInspection
  := by
  apply uses_perform_bind (.inr (.inl ⟨_, rfl⟩)) _ (fun _ => by trivial)
  intro ifaces
  dsimp only
  split
  · trivial
  split
  · apply Program.Uses.bind
    · apply uses_perform_bind (.inr (.inr ⟨_, rfl⟩)) (fun _ => by trivial) (fun _ => by trivial)
    · intro found
      split <;> trivial
  · split
    · trivial
    split
    · trivial
    apply ((verifyPodInterface_uses _ _ _).mono fun _ => .inl).bind
    rintro (_ | _) <;> trivial

/-- A CHECK changes nothing but links. -/
theorem wpc_handleCheckBody {P : Policy Op} (conf : PluginConf) (args : CmdArgs) (w : World) :
  wpc (Env P) (fun w' => ∃ links, w' = { w with links }) (handleCheckBody conf args)
    (fun _ w' => ∃ links, w' = { w with links }) w
  := by
  apply (handleCheckBody_uses conf args).wpc _ ⟨w.links, rfl⟩
  rintro _ o r w' ho h ⟨links, rfl⟩
  rcases h.eq_or_eff with rfl | ⟨v, hv⟩
  · exact ⟨links, rfl⟩
  · obtain ⟨links', rfl⟩ := hv.inspection ho
    exact ⟨links', rfl⟩

end GroutCni
