import Telga.Application.PosScreens

namespace Telga.Application
open Domain Persistence Library

/-- A sale that has been let through and has still to count its attempt. -/
def VisitPoint.counting : VisitPoint → Bool
  | .working (.counter (.pin (.pos (.postSale call)))) =>
    (call.point matches .begin | .recording _)
  | _ => false

/-- One step more of a request that has still to count its attempt. -/
def Visit.carryOn (options : PosServerOptions) (input : ServerInput)
    (state : PosServerDb × Visit) : PosServerDb × Visit :=
  if state.2.point.counting then state.2.step options input state.1 else state

/-- What a request does in one go. Nothing is awaited between the guard and the count of a sale's
attempt: the body is validated and the attempt recorded before anything else runs. -/
def Visit.goOn (options : PosServerOptions) (inputs : Nat → ServerInput) (db : PosServerDb)
    (visit : Visit) : PosServerDb × Visit :=
  Visit.carryOn options (inputs 2)
    (Visit.carryOn options (inputs 1) (visit.step options (inputs 0) db))

/-- The server of the point of sale, each of its requests run to where it waits. -/
def saleServer (options : PosServerOptions) : Machine PosServerDb (Nat → ServerInput) Visit where
  advance := Visit.goOn options
  finished visit := visit.finished = true

/-- What a request posts to the API once its body is there, itself or by its form. -/
def Visit.posted (options : PosServerOptions) (visit : Visit) : Option ApiRequest :=
  match visit.point, visit.request.body with
  | .awaiting .api, some body => some (visit.request.toApi body.json)
  | .awaiting (.form form _), some body =>
    (form.apiCall options body.form).map fun call => visit.request.handOn "POST" call.1 call.2
  | _, _ => none

/-- Whose request the guard lets past to the handler of a route in the scope of sales. -/
def salePassed (options : PosServerOptions) (input : ServerInput) (db : PosServerDb)
    (request : ApiRequest) : Option (Route × AuthContext) :=
  match findRoute options.decodeURIComponent request.method (normalizePath request.path.toList)
    routes with
  | .ok (some (route, _)) =>
    if route.sale then
      route.permission.bind fun permission =>
        (PosServer.guard options db request route permission (input.now 0)).2.map fun context =>
          (route, context)
    else none
  | _ => none

end Telga.Application
