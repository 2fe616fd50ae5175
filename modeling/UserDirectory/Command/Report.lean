import UserDirectory.Command.Basic
import UserDirectory.Service.Operation
import UserDirectory.User.Record

namespace UserDirectory

def Page.report (page : Page) : Json :=
  .object [
    ("users", .array (page.users.map User.record)),
    ("total", .ofNat page.total),
    ("page", .ofNat page.page),
    ("page_size", .ofNat page.pageSize)]

def Statistics.report (statistics : Statistics) : Json :=
  .object [
    ("total_users", .ofNat statistics.total),
    ("active_users", .ofNat statistics.active),
    ("inactive_users", .ofNat statistics.inactive),
    ("today_registered", .ofNat statistics.today),
    ("this_week_registered", .ofNat statistics.thisWeek),
    ("this_month_registered", .ofNat statistics.thisMonth)]

def Tally.report (tally : Tally) : Json :=
  .object [
    ("success_count", .ofNat tally.succeeded),
    ("failed_count", .ofNat tally.failed),
    ("failed_ids", .array (tally.failedItems.map Json.text))]

open Service

def UserCommand.program (settings : Settings) : UserCommand → Program Json
  | createUser request => do return (← Service.createUser request).record
  | getUser id => do return (← Service.getUser id).record
  | updateUser request => do return (← Service.updateUser request).record
  | deleteUser id => do
    Service.deleteUser id
    return .object [("id", .text id), ("deleted", .bool true)]
  | batchDelete ids => do return (← batchDeleteUsers ids).report
  | setStatus id status updateBy => do
    changeUserStatus id status updateBy
    return .object [("id", .text id), ("status", .ofInt status)]
  | resetPassword id password updateBy => do
    Service.resetPassword id password updateBy
    return .object [("id", .text id), ("password_reset", .bool true)]
  | checkAccount account => do
    let held ← checkAccountExists account
    return .object [("account", .text account), ("exists", .bool held)]
  | stats tenantId => do return (← getUserStatistics settings tenantId).report
  | listUsers request => do return (← Service.listUsers settings request).report

end UserDirectory
