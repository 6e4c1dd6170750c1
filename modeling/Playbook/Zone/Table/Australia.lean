/-!
# Playbook.Zone.Table.Australia

The histories of the zones whose names start with `Australia`, in the form of
`Playbook.Zone.History`.
-/

namespace Playbook.Zone.Table

/-- Names of zones with their histories. -/
def australia : List (String × String) := [
  ("Australia/Adelaide",
    "33260 32400 34200 37800d;b31qu5g4 c27qdzw d97zyu0 c49pc0 dcxfk00 c4h400 d9d1c0 c9d1c0
    d9q000 c902o0 deeio00 c64dc0 dclpc0 c6hc00 dc8qo0 c6hc00 dc8qo0 c6hc00 dc8qo0 c6uao0
    dc8qo0 c6hc00 dc8qo0 c6hc00 dc8qo0 c6hc00 dc8qo0 c6hc00 dc8qo0 c6hc00 dc8qo0 c6uao0
    dc8qo0 c6hc00 dc8qo0 c6hc00 dc8qo0 c6hc00 dc8qo0 c779c0 db5uo0 c7k800 dbitc0 c7k800
    dbitc0 c779c0 dbitc0 c779c0 dbitc0 c6hc00 dc8qo0 c7k800 db5uo0 c6uao0 dc8qo0 c779c0
    dbitc0 c7k800 db5uo0 c7x6o0 dasw00 c7x6o0 dasw00 c7x6o0 dasw00 c7x6o0 db5uo0 c7k800
    db5uo0 c7k800 db5uo0 c7x6o0 dasw00 c7x6o0 dasw00 c7x6o0 db5uo0 c7k800 db5uo0 c7x6o0
    dasw00 c7k800 db5uo0;2008 d10.1.0/7200 c4.1.0/10800"),
  ("Australia/Brisbane",
    "36728 36000 39600d;b31p8o3s cbhbss8 b49pc0 ccxfk00 b4h400 c9d1c0 b9d1c0 c9q000 b902o0
    ceeio00 b64dc0 c97zuo0 b6hc00 cc8qo0 b6hc00 cc8qo0 b6hc00;"),
  ("Australia/Broken_Hill",
    "33948 36000 32400 34200 37800d;b31qu4x0 ct9nr0 d1egqs0 e97zyu0 d49pc0 ecxfk00 d4h400
    e9d1c0 d9d1c0 e9q000 d902o0 eeeio00 d64dc0 eclpc0 d6hc00 ec8qo0 d6hc00 ec8qo0 d6hc00
    ec8qo0 d6uao0 ec8qo0 d6hc00 ec8qo0 d6hc00 ec8qo0 d6hc00 ec8qo0 d6hc00 ec8qo0 d6hc00
    ec8qo0 d8a5c0 easw00 d6hc00 ec8qo0 d6hc00 ec8qo0 d6hc00 ec8qo0 d779c0 eb5uo0 d7k800
    ebitc0 d7k800 ebitc0 d779c0 ebitc0 d6hc00 ec8qo0 d6hc00 ec8qo0 d6hc00 ec8qo0 d6uao0
    ec8qo0 d6hc00 ec8qo0 d6hc00 ec8qo0 d7x6o0 easw00 d7x6o0 easw00 d7x6o0 easw00 d7x6o0
    eb5uo0 d7k800 eb5uo0 d7k800 eb5uo0 d7x6o0 easw00 d7x6o0 easw00 d7x6o0 eb5uo0 d7k800
    eb5uo0 d7x6o0 easw00 d7k800 eb5uo0;2008 e10.1.0/7200 d4.1.0/10800"),
  ("Australia/Darwin",
    "31400 32400 34200 37800d;b31qu6vs c27qck8 d97zyu0 c49pc0 dcxfk00 c4h400 d9d1c0 c9d1c0
    d9q000 c902o0;"),
  ("Australia/Eucla",
    "30928 31500 35100d;b326fb8w cb05944 b49pc0 ccxfk00 b4h400 c9d1c0 b9d1c0 cgheyo0 b6hc00
    c4ir9c0 b6hc00 c40r400 b5eg00 c7p9hc0 b5reo0 cb5uo0 b7x6o0 casw00 b7x6o0;"),
  ("Australia/Hobart",
    "35356 36000 39600d;b321qp5w cb03ee4 b902o0 cb5uo0 b6hc00 cc8qo0 b6hc00 cbx2ao0 b4h400
    c9d1c0 b9d1c0 c9q000 b902o0 cc9tk00 b9d1c0 casw00 b6uao0 cbvs00 b6uao0 cbvs00 b779c0
    cbvs00 b64dc0 cclpc0 b6hc00 cc8qo0 b6hc00 cc8qo0 b6hc00 cc8qo0 b6uao0 cc8qo0 b6hc00
    cc8qo0 b6hc00 cc8qo0 b6hc00 cc8qo0 b6hc00 cc8qo0 b6hc00 cc8qo0 b7x6o0 cb5uo0 b7k800
    cb5uo0 b6hc00 cc8qo0 b6hc00 cc8qo0 b6hc00 cbvs00 b7k800 cbitc0 b7k800 cbitc0 b779c0
    cbitc0 b779c0 cbitc0 b7x6o0 c9q000 b902o0 c9q000 b902o0 c9q000 b902o0 c9q000 b902o0
    c9q000 b9d1c0 c9q000 b902o0 c9q000 b902o0 c9q000 b902o0 c9q000 b902o0 c7x6o0 basw00
    ca2yo0 b902o0 c9q000 b902o0 c9q000 b902o0 c9q000 b902o0 c9q000 b9d1c0 c9d1c0 b902o0
    ca2yo0;2008 c10.1.0/7200 b4.1.0/10800"),
  ("Australia/Lindeman",
    "35756 36000 39600d;b31p8ous cbhbs18 b49pc0 ccxfk00 b4h400 c9d1c0 b9d1c0 c9q000 b902o0
    ceeio00 b64dc0 c97zuo0 b6hc00 cc8qo0 b6hc00 cc8qo0 b6hc00 cc8qo0 b6uao0 cc8qo0 b6hc00;"),
  ("Australia/Lord_Howe",
    "38180 36000 37800 41400d 39600d;b31qu1ng c18x8f0k dc8uu0 c6u7w0 dc8tg0 c6h980 dc8tg0
    c6h980 dc8tg0 c6h980 ec8tg0 c777y0 eb5w20 c7k6m0 ebiuq0 c7k6m0 ebiuq0 c777y0 ebiuq0
    c6ham0 ec8s20 c6ham0 ec8s20 c6ham0 ec8s20 c6u9a0 ec8s20 c6ham0 ec8s20 c6ham0 ec8s20
    c7x5a0 easxe0 c7x5a0 easxe0 c7x5a0 easxe0 c7x5a0 eb5w20 c7k6m0 e7x820 casum0 eb5w20
    c7x5a0 easxe0 c7x5a0 easxe0 c7x5a0 eb5w20 c7k6m0 eb5w20 c7x5a0 easxe0 c7k6m0 eb5w20;2008
    e10.1.0/7200 c4.1.0/7200"),
  ("Australia/Melbourne",
    "34792 36000 39600d;b31qu49k cbfqcmg b49pc0 ccxfk00 b4h400 c9d1c0 b9d1c0 c9q000 b902o0
    ceeio00 b64dc0 cclpc0 b6hc00 cc8qo0 b6hc00 cc8qo0 b6hc00 cc8qo0 b6uao0 cc8qo0 b6hc00
    cc8qo0 b6hc00 cc8qo0 b6hc00 cc8qo0 b6hc00 cc8qo0 b6hc00 cc8qo0 b6uao0 cc8qo0 b6hc00
    cc8qo0 b6hc00 cc8qo0 b6hc00 cc8qo0 b779c0 cb5uo0 b7k800 cb5uo0 b7x6o0 cbitc0 b779c0
    cbitc0 b779c0 cbitc0 b6hc00 cc8qo0 b6hc00 cc8qo0 b6uao0 cc8qo0 b6hc00 cc8qo0 b7k800
    cb5uo0 b7x6o0 casw00 b7x6o0 casw00 b7x6o0 casw00 b7x6o0 cb5uo0 b7k800 c7x6o0 basw00
    cb5uo0 b7x6o0 casw00 b7x6o0 casw00 b7x6o0 cb5uo0 b7k800 cb5uo0 b7x6o0 casw00 b7k800
    cb5uo0;2008 c10.1.0/7200 b4.1.0/10800"),
  ("Australia/Perth",
    "27804 28800 32400d;b326fdno cb058sc b49pc0 ccxfk00 b4h400 c9d1c0 b9d1c0 cgheyo0 b6hc00
    c4ir9c0 b6hc00 c40r400 b5eg00 c7p9hc0 b5reo0 cb5uo0 b7x6o0 casw00 b7x6o0;"),
  ("Australia/Sydney",
    "36292 36000 39600d;b31qu33w cbfqds4 b49pc0 ccxfk00 b4h400 c9d1c0 b9d1c0 c9q000 b902o0
    ceeio00 b64dc0 cclpc0 b6hc00 cc8qo0 b6hc00 cc8qo0 b6hc00 cc8qo0 b6uao0 cc8qo0 b6hc00
    cc8qo0 b6hc00 cc8qo0 b6hc00 cc8qo0 b6hc00 cc8qo0 b6hc00 cc8qo0 b8a5c0 casw00 b6hc00
    cc8qo0 b6hc00 cc8qo0 b6hc00 cc8qo0 b779c0 cb5uo0 b7k800 cbitc0 b7k800 cbitc0 b779c0
    cbitc0 b6hc00 cc8qo0 b6hc00 cc8qo0 b6hc00 cc8qo0 b6uao0 cc8qo0 b6hc00 cc8qo0 b6hc00
    cc8qo0 b7x6o0 casw00 b7x6o0 casw00 b7x6o0 casw00 b7x6o0 cb5uo0 b7k800 c7x6o0 basw00
    cb5uo0 b7x6o0 casw00 b7x6o0 casw00 b7x6o0 cb5uo0 b7k800 cb5uo0 b7x6o0 casw00 b7k800
    cb5uo0;2008 c10.1.0/7200 b4.1.0/10800")]

end Playbook.Zone.Table
