import BatchCompiler.Options.Parser
import BatchCompiler.Proofs.Action

/-!
# Performing handlers

What each operation of `Handler` does to a reading, as an equation.

## Main statements

* `perform_configure`, `perform_tell`, `perform_splice`, … — one equation an operation
* `perform_nextArgument?_nil`, `perform_nextArgument?_cons` — taking the next argument
-/

namespace BatchCompiler.Handler

@[simp] theorem perform_configure (change : Config → Config) (r : Reading) :
    perform (configure change) r = (.ok (), { r with config := change r.config }) := rfl

@[simp] theorem perform_setPolicy (change : ReportingPolicy → ReportingPolicy) (r : Reading) :
    perform (setPolicy change) r =
      (.ok (), { r with desk := { r.desk with engine := r.desk.engine.withPolicy change } }) := rfl

@[simp] theorem perform_tell (ns : List Notice) (r : Reading) :
    perform (tell ns) r = (.ok (), { r with desk := r.desk.takeAll ns }) := rfl

@[simp] theorem perform_configureTelling (change : Config → Config × List Notice) (r : Reading) :
    perform (configureTelling change) r =
      (.ok (), { r with
        config := (change r.config).1
        desk := r.desk.takeAll (change r.config).2 }) := rfl

@[simp] theorem perform_ask (request : InfoRequest) (r : Reading) :
    perform (ask request) r = (.ok (), { r with request := some request }) := rfl

@[simp] theorem perform_splice (extra : List String) (r : Reading) :
    perform (splice extra) r =
      (.ok (), { r with unread := ResponseFile.spliceBeforeSeparator r.unread extra }) := rfl

theorem perform_nextArgument?_nil {r : Reading} (h : r.unread = []) :
    perform nextArgument? r = (.ok none, r) := by
  unfold nextArgument?
  rw [perform_bind, perform_get]
  simp only [h, perform_pure]

theorem perform_nextArgument?_cons {r : Reading} {arg : String} {rest : List String}
    (h : r.unread = arg :: rest) :
    perform nextArgument? r = (.ok (some arg), { r with unread := rest }) := by
  unfold nextArgument?
  rw [perform_bind, perform_get]
  simp only [h, perform_bind, perform_modify, perform_pure]

end BatchCompiler.Handler
