/-!
# Playbook.Zone.Table.Oceans

The histories of the zones whose names start with `Antarctica`, `Atlantic` and
`Indian`, in the form of `Playbook.Zone.History`.
-/

namespace Playbook.Zone.Table

/-- Names of zones with their histories. -/
def antarctica : List (String × String) := [
  ("Antarctica/Casey",
    "0 28800 39600;b44blb40 clag4o0 b73bo0 cuz1o0 b60l80 c2fnh80 bpz9g0 cat4c0 b89u80 cacgc0
    b80no0 casw1o b89wyc cag5po b89wyc cag5po b84lac;"),
  ("Antarctica/Davis",
    "0 25200 18000;b3y2qv40 a42jdw0 b27wgs0 cl8uss0 b7eqs0 cunmk0 b60qs0;"),
  ("Antarctica/Macquarie",
    "0 36000 39600d;b3481z40 c8ts4g0 b902o0 a11wns0 bf4kh40 ca6p8g0 b9d1c0 casw00 b6uao0
    cbvs00 b6uao0 cbvs00 b779c0 cbvs00 b64dc0 cclpc0 b6hc00 cc8qo0 b6hc00 cc8qo0 b6hc00
    cc8qo0 b6uao0 cc8qo0 b6hc00 cc8qo0 b6hc00 cc8qo0 b6hc00 cc8qo0 b6hc00 cc8qo0 b6hc00
    cc8qo0 b7x6o0 cb5uo0 b7k800 cb5uo0 b6hc00 cc8qo0 b6hc00 cc8qo0 b6hc00 cbvs00 b7k800
    cbitc0 b7k800 cbitc0 b779c0 cbitc0 b779c0 cbitc0 b7x6o0 c9q000 b902o0 c9q000 b902o0
    c9q000 b902o0 c9q000 b902o0 c9q000 b9d1c0 c9q000 b902o0 c9q000 b902o0 c9q000 b902o0
    c9q000 b902o0 c7x6o0 basw00 ca2yo0 b902o0 c9q000 b902o0 c9q000 b902o0 c9q000 b902o0
    c9q000 b9d1c0 c9d1c0 b902o0 ca2yo0 b9d1c0 c9d1c0 b9d1c0 c9d1c0;2011 c10.1.0/7200
    b4.1.0/10800"),
  ("Antarctica/Mawson",
    "0 21600 18000;b3wjyn40 ct22y80;"),
  ("Antarctica/Palmer",
    "0 -10800d -14400 -10800 -7200d;b428fr40 c31ho0 bbqas0 c71mk0 bbqas0 c8ovw0 b9d440 c9px80
    b9d440 c9cyk0 d9d440 e28t6k0 d51ek0 c46b6s0 b8c2s0 c7x3w0 basys0 c7x3w0 bb5xg0 c7k580
    bb5xg0 c7k580 bb5xg0 c9cyk0 b9d440 c7x3w0 basys0 c7x3w0 bb5xg0 c7k580 b9q2s0 c8zzw0
    bb5xg0 c7x3w0 basys0 c7x3w0 basys0 c7x3w0 basys0 c7x3w0 bb5xg0 c7k580 bb5xg0 c8n180
    ba31g0 c7x3w0 ba31g0 c9px80 b9q2s0 c7x3w0 bb5xg0 c7k580 bb5xg0 c7k580 bb5xg0 c7k580
    bb5xg0 c7x3w0 basys0 c7x3w0 basys0 c7x3w0 bb5xg0 c7k580 bb5xg0 c8n180 ba31g0 c7x3w0
    basys0 c8zzw0 b9q2s0 cast80 b5eis0 ccyl80 b6hes0 cc8nw0 b6udg0 cbvp80 b6udg0 cvonw0
    b4olg0 d5rbw0;"),
  ("Antarctica/Rothera",
    "0 -10800;b48gb0g0;"),
  ("Antarctica/Troll",
    "0 7200d;;2005 b3.5.0/3600 a10.5.0/10800"),
  ("Antarctica/Vostok",
    "0 25200 18000;b3yk2xs0 aiushw0 be23g0 cf79gs0;")]

/-- Names of zones with their histories. -/
def atlantic : List (String × String) := [
  ("Atlantic/Azores",
    "-6160 -6872 -7200 -3600d 0d -3600 0 3600d;b2vykuj4 cem124w d2bufw0 c6zxg0 d66800 cbq580
    d71s40 cbq580 d71s40 cbq580 d73ms0 cbq580 d71s40 cbq580 d1b2g00 c8so00 dst1c0 c8n400
    d9q000 c902o0 da2yo0 c902o0 da2yo0 c8n400 dst1c0 c8n400 d9d1c0 c9d1c0 dsg2o0 c9d1c0
    d902o0 c9q000 da2yo0 c8n400 d9d1c0 c9d1c0 d902o0 c9q000 da2yo0 cb5uo0 d51hc0 cbmio0
    d99c00 c9ew00 d88ao0 e25p80 d5reo0 c3lpg0 d779c0 e1sqk0 d6uao0 c38qs0 d6uao0 e25p80
    d6hc00 c38qs0 d6uao0 e25p80 d6hc00 c38qs0 d8a5c0 c9d1c0 d9d9o0 c9d1c0 d9d1c0 c9d1c0
    d9d1c0 c9d1c0 d9d1c0 c9d1c0 d9d1c0 c9q000 d9d1c0 c9d1c0 d9d1c0 c9d1c0 d9d1c0 c9d1c0
    d9d1c0 c9d1c0 d9d1c0 c9q000 d9d1c0 c9d1c0 d9d1c0 c9d1c0 d9d1c0 c9d1c0 d9d1c0 c9d1c0
    d9d1c0 c9d1c0 d9d1c0 c9q000 d9d1c0 c9d1c0 d9d1c0 c9d1c0 d9d1c0 c9d1c0 d9d1c0 f9d1c0
    e82xuc0 f9d1c0 e9d1c0 f9d1c0 e9d1c0 f9q000 e9d1c0 f9d1c0 e9d1c0 f9d1c0 e9d1c0 f9d1c0
    e9d1c0 f9d1c0 e9d1c0 f9d1c0 e9d1c0 f9q000 e9d1c0 f9d1c0 e9d1c0 f9d1c0 g4olg0 h4ofw0
    e46000 f571c0 e9d1c0 f9d1c0 e9d1c0 f9d1c0;1996 e3.5.0/0 f10.5.0/3600"),
  ("Atlantic/Bermuda",
    "-15558 -11958d -14400 -10800d;b3dbhcg6 a95jw0 ba16s0 a7yyk0 c5w74c0 d69z5ru ceefw0
    d7x9g0 cbiqk0 d6udg0 cc8nw0 d6hes0 cc8nw0 dst440 c64ak0 dcyqs0 c5ed80 ddbpg0 c5ed80
    ddoo40 c51ek0 ddoo40 c51ek0 ddoo40 c5ed80 d1xuw40 c7x3w0 d94r9g0 c9cyk0 d9d440 c9cyk0
    d9d440 c9px80 d905g0 c9px80 d9d440 c9cyk0 d9d440 c9cyk0 d9d440 c9cyk0 d9d440 c9cyk0
    d9d440 c9px80 d905g0 c9px80 d9d440 c9cyk0 d9d440 c9cyk0 d9d440 c9cyk0 d8a840 cafuk0
    d8a840 cast80 d7x9g0 cast80 d7x9g0 cast80 d8a840 cafuk0 d8a840 cafuk0 d8a840 cast80
    d7x9g0 cast80 d7x9g0 cast80 d8a840 cafuk0 d8a840 cafuk0 d8a840 cafuk0 d8a840 cast80
    d7x9g0 cast80 d7x9g0 cast80 d8a840 cafuk0 d8a840 cafuk0 d8a840 cast80 d7x9g0 cast80
    d7x9g0 cast80;2007 d3.2.0/7200 c11.1.0/7200"),
  ("Atlantic/Canary",
    "-3696 -3600 0 3600d;b3fvjwmo cctvupc dhhq7s0 c905g0 d9d1c0 c9d1c0 d9d1c0 c9d1c0 d9d1c0
    c9d1c0 d9d1c0 c9q000 d9d1c0 c9d1c0 d9d1c0 c9d1c0 d9d1c0 c9d1c0 d9d1c0 c9d1c0 d9d1c0
    c9d1c0 d9d1c0 c9q000 d9d1c0 c9d1c0 d9d1c0 c9d1c0 d9d1c0 c9d1c0 d9d1c0 c9d1c0 d9d1c0
    c9d1c0;1996 d3.5.0/3600 c10.5.0/7200"),
  ("Atlantic/Cape_Verde",
    "-5644 -7200 -3600d -3600;b3aklwo0 cg06lc0 b1mn180 dfpqwc0;"),
  ("Atlantic/Faroe",
    "-1624 0 3600d;b38hyr14 c127keuw b9d1c0 c9d1c0 b9d1c0 c9d1c0 b9d1c0 c9d1c0 b9q000 c9d1c0
    b9d1c0 c9d1c0 b9d1c0 c9d1c0 b9d1c0 c9d1c0 b9d1c0 c9d1c0 b9d1c0 c9d1c0 b9q000 c9d1c0
    b9d1c0 c9d1c0 b9d1c0 c9d1c0 b9d1c0 c9d1c0 b9d1c0 c9d1c0 b9d1c0;1996 c3.5.0/3600
    b10.5.0/7200"),
  ("Atlantic/Madeira",
    "-4056 -3600 0d 3600d 0;b3akltw0 c2bufw0 b6zxg0 c66800 bbq580 c71s40 bbq580 c71s40 bbq580
    c73ms0 bbq580 c71s40 bbq580 c1b2g00 b8so00 cst1c0 b8n400 c9q000 b902o0 ca2yo0 b902o0
    ca2yo0 b8n400 cst1c0 b8n400 c9d1c0 b9d1c0 csg2o0 b9d1c0 c902o0 b9q000 ca2yo0 b8n400
    c9d1c0 b9d1c0 c902o0 b9q000 ca2yo0 bb5uo0 c51hc0 bbmio0 c99c00 b9ew00 c88ao0 d25p80
    c5reo0 b3lpg0 c779c0 d1sqk0 c6uao0 b38qs0 c6uao0 d25p80 c6hc00 b38qs0 c6uao0 d25p80
    c6hc00 b38qs0 c8a5c0 b9d1c0 c9d9o0 b9d1c0 c9d1c0 b9d1c0 c9d1c0 b9d1c0 c9d1c0 b9d1c0
    c9d1c0 b9q000 c9d1c0 b9d1c0 c9d1c0 b9d1c0 c9d1c0 b9d1c0 c9d1c0 b9d1c0 c9d1c0 b9q000
    c9d1c0 b9d1c0 c9d1c0 b9d1c0 c9d1c0 b9d1c0 c9d1c0 b9d1c0 c9d1c0 b9d1c0 c9d1c0 b9q000
    c9d1c0 b9d1c0 c9d1c0 b9d1c0 c9d1c0 b9d1c0 c9d1c0 e9d1c0 d83at00 e902o0 d9d1c0 e9d1c0
    d9d1c0 e9q000 d9d1c0 e9d1c0 d9d1c0 e9d440 d9d1c0 e9d1c0 d9d1c0 e9d1c0 d9d1c0 e9d1c0
    d9d1c0 e9q000 d9d1c0 e9d1c0 d9d1c0 e9d1c0 d9d1c0 e9d1c0 d9d1c0 e9d1c0 d9d1c0 e9d1c0;1996
    d3.5.0/3600 e10.5.0/7200"),
  ("Atlantic/South_Georgia",
    "-8768 -7200;b2z3c5vk;"),
  ("Atlantic/Stanley",
    "-13884 -14400 -10800d -10800 -7200d;b3ao9j5o cdbvxqc b8zzw0 c9q2s0 b8zzw0 ca31g0 b8zzw0
    c9q2s0 b8zzw0 c9q2s0 b8zzw0 c9q2s0 b4xp80 dl1pus0 e7k580 db5rw0 e77c40 dbiqk0 c77c40
    bb5uo0 c7kas0 bb5rw0 c7kas0 bb5rw0 c7kas0 bb5rw0 c7kas0 bbiqk0 c77c40 bbiqk0 c7kas0
    bb5rw0 c7kas0 bb5rw0 c7kas0 bb5rw0 c7kas0 bb5rw0 c7kas0 bbiqk0 c7kas0 bb5rw0 c7kas0
    bb5rw0 c7kas0 bb5rw0 c7kas0 bb5rw0 c7kas0 bb5xg0 c77c40 bbvp80 c6udg0 bbvp80 c77c40
    bbiqk0 c77c40 bbiqk0 c77c40 bbiqk0 c77c40 bbiqk0 c77c40 bbvp80 c77c40 bbiqk0 c77c40
    bbiqk0 d77c40;")]

/-- Names of zones with their histories. -/
def indian : List (String × String) := [
  ("Indian/Chagos",
    "17380 18000 21600;b37ynwd8 c1ag64us;"),
  ("Indian/Maldives",
    "17640 18000;b3zmg1i0;"),
  ("Indian/Mauritius",
    "13800 14400 18000d;b37ynz4o c13jnu7c b8bx80 cdd0wc0 b7x3w0;")]

end Playbook.Zone.Table
