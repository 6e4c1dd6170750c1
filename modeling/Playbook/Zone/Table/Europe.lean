/-!
# Playbook.Zone.Table.Europe

The histories of the zones whose names start with `Europe`, in the form of
`Playbook.Zone.History`.
-/

namespace Playbook.Zone.Table

/-- Names of zones with their histories. -/
def europe : List (String × String) := [
  ("Europe/Andorra",
    "364 0 3600 7200d;b34tyutw cnvgqy4 dk3ctg0 c9d1c0 d9d1c0 c9d1c0 d9d1c0 c9d1c0 d9d1c0
    c9d1c0 d9d1c0 c9d1c0 d9d1c0 c9q000 d9d1c0 c9d1c0 d9d1c0 c9d1c0 d9d1c0 c9d1c0 d9d1c0
    c9d1c0 d9d1c0 c9d1c0;1996 d3.5.0/7200 c10.5.0/10800"),
  ("Europe/Astrakhan",
    "11532 10800 14400 18000d 14400d;b3h0a8vo c37bv8c dqi27w0 c9et80 d9d440 c9et80 d9d440
    c9et80 d9eys0 c9d6w0 d9d1c0 c9d1c0 d9d1c0 c9d1c0 d9d1c0 c9d1c0 d9d1c0 c9d1c0 e9d1c0
    b9d440 e9d1c0 b9q000 c9d1c0 eipzw0 b9d440 e9d1c0 b9d1c0 e9d1c0 b9d1c0 e9d1c0 b9d1c0
    e9q000 basw00 e7x6o0 basw00 e7x6o0 basw00 e7x6o0 bb5uo0 e7k800 bb5uo0 e7k800 bb5uo0
    e7x6o0 basw00 e7x6o0 basw00 e7x6o0 bb5uo0 e7k800 bb5uo0 e7k800 bb5uo0 e7k800 bb5uo0
    e7x6o0 basw00 e7x6o0 basw00 e7x6o0 bb5uo0 c7k800 b1vbzw0 cqnc40;"),
  ("Europe/Athens",
    "5692 7200 10800d 7200d 3600;b3cyi83k c8bjasg b2vmk0 c4hiw40 d16ik0 escog0 d7lx40 e9o2k0
    b9eys0 c4atzw0 b6djw0 cbplus0 bbq800 c71uw0 b9d1c0 c902o0 b91xc0 c9o5c0 b905g0 c9qgo0
    b9akg0 c9iik0 b99980 c9dcg0 b9d1c0 c9d1c0 b9d1c0 c9d1c0 b9d1c0 c9d1c0 b9q000 c9d1c0
    b9d1c0 c9d1c0 b9d1c0 c9d1c0 b9d1c0 c9d1c0 b9d1c0 c9d1c0 b9d1c0 c9d1c0 b9q000 c9d1c0
    b9d1c0 c9d1c0 b9d1c0 c9d1c0 b9d1c0 c9d1c0 b9d1c0 c9d1c0 b9d1c0;1996 c3.5.0/10800
    b10.5.0/14400"),
  ("Europe/Belgrade",
    "4920 3600 7200d;b2vyklzc ctwhnko bswz00 c7k800 b9q000 c9d1c0 b9d1c0 cb7pc0 b6qlc0
    cjl1hc0 b9d1c0 c9d1c0 b9q000 c9d1c0 b9d1c0 c9d1c0 b9d1c0 c9d1c0 b9d1c0 c9d1c0 b9d1c0
    c9d1c0 b9d1c0 c9d1c0 b9q000 c9d1c0 b9d1c0 c9d1c0 b9d1c0 c9d1c0 b9d1c0 c9d1c0 b9d1c0
    c9d1c0 b9d1c0;1996 c3.5.0/7200 b10.5.0/10800"),
  ("Europe/Berlin",
    "3208 3600 7200d 10800d;b30sc7aw cc1n0x4 b7ves0 ca4yw0 b7x6o0 casw00 b7x6o0 cb8qdc0
    b1cm000 c7k800 b9q000 c9d1c0 b9d1c0 c9d1c0 d2o7w0 c6bs00 b2txg0 c7k800 b91xc0 c9b9g0
    d1sqk0 c2inw0 b51k40 ca2yo0 b8n400 c9q000 b902o0 cfx91c0 b902o0 c9d1c0 b9d1c0 c9d1c0
    b9d1c0 c9d1c0 b9d1c0 c9d1c0 b9q000 c9d1c0 b9d1c0 c9d1c0 b9d1c0 c9d1c0 b9d1c0 c9d1c0
    b9d1c0 c9d1c0 b9d1c0 c9d1c0 b9q000 c9d1c0 b9d1c0 c9d1c0 b9d1c0 c9d1c0 b9d1c0 c9d1c0
    b9d1c0 c9d1c0 b9d1c0;1996 c3.5.0/7200 b10.5.0/10800"),
  ("Europe/Brussels",
    "1050 0 3600 7200d 3600d;b30b3wg0 cbr3hc0 drrx80 c7vc00 da4yw0 c7x6o0 dasw00 c7x6o0
    b2wh40 e5omo0 bb5uo0 e6uao0 bcyo00 e7ayo0 bbko00 e7rmo0 ba2yo0 ea2yo0 b8n400 e902o0
    b9q000 e9d1c0 b9d1c0 ea2yo0 b8n400 e9q000 b902o0 ea2yo0 b90b00 ea2yo0 b8n400 e9q000
    b902o0 ea2yo0 b8n400 e9d1c0 b9d1c0 e902o0 ba2yo0 e9d1c0 b9d1c0 e902o0 b9q000 ea2yo0
    b8n400 e9d1c0 b9d1c0 e902o0 b9q000 ea2yo0 bb5uo0 e51hc0 d4deo0 c1a36k0 d7k800 c9q000
    d9d1c0 c8l9c0 da4tc0 c8l9c0 dclpc0 c79400 dfwu800 c902o0 d9q000 c9d1c0 d9d1c0 c9d1c0
    d9q000 c902o0 d9d1c0 c9d1c0 d9d1c0 c9d1c0 d9d1c0 c9d1c0 d9d1c0 c9q000 d9d1c0 c9d1c0
    d9d1c0 c9d1c0 d9d1c0 c9d1c0 d9d1c0 c9d1c0 d9d1c0 c9d1c0 d9d1c0 c9q000 d9d1c0 c9d1c0
    d9d1c0 c9d1c0 d9d1c0 c9d1c0 d9d1c0 c9d1c0 d9d1c0 c9d1c0;1996 d3.5.0/7200 c10.5.0/10800"),
  ("Europe/Bucharest",
    "6264 7200 10800d;b3ks38y0 cfj8m0 b6w5c0 c9d1c0 b9d1c0 c9q000 b9d1c0 c9d1c0 b9d1c0 c9d1c0
    b9d1c0 c9d1c0 b9d1c0 c9d1c0 b9d1c0 c9d1c0 b9d1c0 ckp0dc0 b6h980 c9q000 b905g0 c9d6w0
    b9d1c0 c9d1c0 b9d1c0 c9d1c0 b9d1c0 c9d1c0 b9q000 c9d1c0 b9d1c0 c9d1c0 b9d1c0 c9d1c0
    b9d1c0 c9d1c0 b9d1c0 c9d1c0 b9d1c0 c9d1c0 b9q000 c9cvs0 b9d1c0 c9d1c0 b9d1c0 c9d1c0
    b9d1c0 c9d1c0 b9cyk0 c9d440 b9cyk0 c9q2s0 bast80;1997 c3.5.0/10800 b10.5.0/14400"),
  ("Europe/Budapest",
    "4580 3600 7200d;b2ziyu8s cdb0dz8 b7ves0 ca4yw0 b7x6o0 casw00 b7x6o0 cauqo0 b7vc00 cafxc0
    b8n400 caq1x00 bthcc0 c7k800 b9q000 c9d1c0 b9d1c0 cawd00 b9eys0 c7pxk0 b9rrw0 c9b9g0
    b9d1c0 c9d1c0 b9d1c0 c9q000 b902o0 c2f4vs0 b6u7w0 cbw0c0 b6uao0 cclpc0 b64dc0 cclpc0
    b64dc0 cbr3bs0 b902o0 c9d1c0 b9d1c0 c9d1c0 b9d1c0 c9d1c0 b9d1c0 c9d6w0 b9q000 c9d1c0
    b9d1c0 c9d1c0 b9d1c0 c9d1c0 b9d1c0 c9d1c0 b9d1c0 c9d1c0 b9d1c0 c9d1c0 b9q000 c9d1c0
    b9d1c0 c9d1c0 b9d1c0 c9d1c0 b9d1c0 c9d1c0 b9d1c0 c9d1c0 b9d1c0;1996 c3.5.0/7200
    b10.5.0/10800"),
  ("Europe/Chisinau",
    "6920 6900 6264 7200 10800d 7200d 3600 10800 14400d;b2tvf0fs cjw96ok d70f1to efj8m0
    d6w5c0 e9d1c0 d9d1c0 e9q000 d9d1c0 e9d1c0 d9d1c0 e9d1c0 d9d1c0 e9d1c0 d9d1c0 e9d1c0
    d9d1c0 e9d1c0 d9d1c0 egeqo0 fha580 goc8g0 f7k800 g9q000 f9d1c0 h7cl00 ij3pbw0 h9et80
    i9d440 h9et80 i9d440 h9et80 i9eys0 h9d6w0 i9d1c0 h9d1c0 i9d1c0 h9d1c0 i9d1c0 h9d1c0
    i9d1c0 h9d1c0 i9d1c0 h9d1c0 i9d1c0 e25p80 d7kdk0 e9d1c0 d9d1c0 e9cvs0 d9cyk0 e9d440
    d9cyk0 e9d440 d9cyk0 e9d440 d9cyk0 e9q2s0 dast80;1997 e3.5.0/7200 d10.5.0/10800"),
  ("Europe/Dublin",
    "-1521 2079d 0 3600d 3600;b3cv0lu9 c6uao0 d9pytr c8c000 d9o5c0 c9ruo0 d9b6o0 c9ew00
    d9b6o0 cauqo0 d88ao0 c9ew00 d8y800 ca2yo0 da2yo0 c7k800 dasw00 c8a5c0 dasw00 c8n400
    da2yo0 c8n400 d9q000 c902o0 dafxc0 c8n400 da2yo0 c8n400 d9q000 c902o0 da2yo0 c8n400
    da2yo0 c8n400 d9q000 c9d1c0 da2yo0 c8n400 d9q000 c902o0 da2yo0 c8n400 da2yo0 c8n400
    d9q000 c902o0 da2yo0 cb5uo0 d51hc0 c3g8800 d8a5c0 cbvs00 d8n400 ca2yo0 d7x6o0 casw00
    d8n400 c9q000 d902o0 c9q000 d9d1c0 c9q000 d902o0 c8n400 d9q000 c902o0 da2yo0 c8n400
    dafxc0 c8n400 d9q000 c902o0 da2yo0 c8n400 da2yo0 c8n400 d9q000 c902o0 d902o0 cb5uo0
    d7k800 cb5uo0 d7x6o0 casw00 d7k800 cb5uo0 d7k800 cb5uo0 d7k800 cb5uo0 d7k800 cbitc0
    d5reo0 ecyfo0 c1kjf00 d779c0 cbitc0 d779c0 cbitc0 d779c0 cbitc0 d779c0 cbitc0 d7k800
    cb5uo0 d7k800 cb5uo0 d7k800 cbitc0 d779c0 cbitc0 d779c0 cbitc0 d7x3w0 casw00 d7x6o0
    casw00 d7x6o0 casw00 d7x6o0 cb5uo0 d7x6o0 casw00 d7x6o0 casw00 d7x6o0 casw00 d7x6o0
    casw00 d7x6o0 cb5uo0 d7k800 cb5uo0 d7x6o0 casw00 d7x6o0 casw00 d7x6o0 casw00 d7x6o0
    casw00 d7x6o0 casw00;1996 d3.5.0/3600 c10.5.0/7200"),
  ("Europe/Gibraltar",
    "-1284 0 3600d 7200d 3600;b2u6fhfo ciol38c b6uao0 c9q000 b8c000 c9o5c0 b9ruo0 c9b6o0
    b9ew00 c9b6o0 bauqo0 c88ao0 b9ew00 c8y800 ba2yo0 ca2yo0 b7k800 casw00 b8a5c0 casw00
    b8n400 ca2yo0 b8n400 c9q000 b902o0 cafxc0 b8n400 ca2yo0 b8n400 c9q000 b902o0 ca2yo0
    b8n400 ca2yo0 b8n400 c9q000 b9d1c0 ca2yo0 b8n400 c9q000 b902o0 ca2yo0 b8n400 ca2yo0
    b8n400 c9q000 b902o0 ca2yo0 bb5uo0 c51hc0 dmbmk0 c51hc0 dc8qo0 c6hc00 dc8qo0 c6uao0
    dbvs00 c8n400 da4tc0 c5clc0 b4bms0 c9q000 b902o0 c8a5c0 d1frw0 c64dc0 b4bms0 c6uao0
    bbvs00 c7x6o0 basw00 c8n400 b9q000 c902o0 b9q000 c9d1c0 b9q000 c902o0 b8n400 c9q000
    b902o0 ca2yo0 b8n400 cafxc0 b8n400 e9q000 dd0tp80 e9d1c0 d9d1c0 e9d1c0 d9d1c0 e9q000
    d9d1c0 e9d1c0 d9d1c0 e9d1c0 d9d1c0 e9d1c0 d9d1c0 e9d1c0 d9d1c0 e9d1c0 d9d1c0 e9q000
    d9d1c0 e9d1c0 d9d1c0 e9d1c0 d9d1c0 e9d1c0 d9d1c0 e9d1c0 d9d1c0 e9d1c0;1996 d3.5.0/7200
    e10.5.0/10800"),
  ("Europe/Helsinki",
    "5989 7200 10800d;b3ffwqhn cax3tqd b9gqo0 ck31s80 b9d1c0 c9d1c0 b9d1c0 c9d440 b9d1c0
    c9d1c0 b9q000 c9d1c0 b9d1c0 c9d1c0 b9d1c0 c9d1c0 b9d1c0 c9d1c0 b9d1c0 c9d1c0 b9d1c0
    c9d1c0 b9q000 c9d1c0 b9d1c0 c9d1c0 b9d1c0 c9d1c0 b9d1c0 c9d1c0 b9d1c0 c9d1c0 b9d1c0;1996
    c3.5.0/10800 b10.5.0/14400"),
  ("Europe/Istanbul",
    "6952 7016 7200 10800d 10800 14400d;b2tvf0ew cg1oam8 d2wvx6w c7v980 d1tjc40 caunw0 d88dg0
    c9et80 d8yas0 ca2vw0 dtzpg0 c79180 dawo40 c7v980 d7p4040 c4zjw0 d2vs40 cf4d80 d9vms0
    c1u5ek0 dc5440 c69uk0 dacas0 c8n180 da31g0 c8n180 d9q2s0 c8zzw0 da31g0 c8zzw0 da31g0
    c8n180 d5md9g0 co9zw0 da6qs0 c75bw0 d4iwyw0 c7x6o0 d7kas0 cb5rw0 d75hg0 cbkl80 d77c40
    cbiqk0 d7x9g0 ca2vw0 d8n6s0 e4iqc0 f2nkw80 e38l80 ckdes0 d8qtc0 c8a5c0 d9ew00 c9d1c0
    d9d1c0 c9d1c0 d9d1c0 c9d1c0 d9d1c0 c9d1c0 d9d1c0 c9q000 d9d1c0 c9d1c0 d9d1c0 c9d1c0
    d9d1c0 c9d1c0 d902o0 c9q000 d9d1c0 c9d1c0 d9q000 casw00 d7x6o0 casw00 d7x6o0 casw00
    d7x6o0 cb5uo0 d7k800 cb5uo0 d7k800 cb5uo0 d7x6o0 casw00 d7x6o0 casw00 d7x6o0 cb5uo0
    d7k800 cb5uo0 d7k800 cb5uo0 d7kdk0 cb5uo0 d7x6o0 casw00 d7x6o0 casw00 d7x6o0 cb5uo0
    d7m2o0 cb4000 d7k800 cb5uo0 d7x6o0 casw00 d7z1c0 car1c0 d7x6o0 cbitc0 d779c0 e8fe80;"),
  ("Europe/Kaliningrad",
    "4920 3600 7200d 7200 10800d 10800 14400d;b30sc5zc cc1n28o b7ves0 ca4yw0 b7x6o0 casw00
    b7x6o0 cb8qdc0 b1cm000 c7k800 b9q000 c9d1c0 b9d1c0 c9d1c0 del00 ez6o0 d9kd80 f82tg0
    gi9avw0 f9et80 g9d440 f9et80 g9d440 f9et80 g9eys0 f9d6w0 g9d1c0 f9d1c0 g9d1c0 f9d1c0
    g9d1c0 f9d1c0 g9d1c0 f9d1c0 e9d1c0 d9d440 e9d1c0 d9q000 e9d1c0 d9d1c0 e9d1c0 d9d1c0
    e9d1c0 d9d1c0 e9d1c0 d9d1c0 e9d1c0 d9d1c0 e9q000 dasw00 e7x6o0 dasw00 e7x6o0 dasw00
    e7x6o0 db5uo0 e7k800 db5uo0 e7k800 db5uo0 e7x6o0 dasw00 e7x6o0 dasw00 e7x6o0 db5uo0
    e7k800 db5uo0 e7k800 db5uo0 e7k800 db5uo0 e7x6o0 dasw00 e7x6o0 dasw00 e7x6o0 db5uo0
    f7k800 d1vbzw0;"),
  ("Europe/Kirov",
    "11928 10800 14400 18000d 14400d;b3ehg4g0 c5q5zo0 dqi27w0 c9et80 d9d440 c9et80 d9d440
    c9et80 d9eys0 c9d6w0 d9d1c0 c9d1c0 d9d1c0 c9d1c0 d9d1c0 c9d1c0 d9d1c0 c9d1c0 e9d1c0
    b9d440 e9d1c0 b9q000 c9d1c0 eipzw0 b9d440 e9d1c0 b9d1c0 e9d1c0 b9d1c0 e9d1c0 b9d1c0
    e9q000 basw00 e7x6o0 basw00 e7x6o0 basw00 e7x6o0 bb5uo0 e7k800 bb5uo0 e7k800 bb5uo0
    e7x6o0 basw00 e7x6o0 basw00 e7x6o0 bb5uo0 e7k800 bb5uo0 e7k800 bb5uo0 e7k800 bb5uo0
    e7x6o0 basw00 e7x6o0 basw00 e7x6o0 bb5uo0 c7k800 b1vbzw0;"),
  ("Europe/Kyiv",
    "7324 7200 10800 7200d 3600 14400d 10800d;b3h0c6sk c37a03g d5vd6k0 ekzv40 d7k800 e9q000
    c1oyg0 fjipzs0 c9et80 f9d440 c9et80 f9d440 c9et80 f9eys0 c9d6w0 f9d1c0 c9d1c0 f9d1c0
    c9d1c0 f9d1c0 c9d1c0 f9d1c0 c9d1c0 f9d1c0 c9d1c0 f9d1c0 g51ek0 bneqw0 g9d1c0 b9d1c0
    g9d1c0 b9d1c0 g9d1c0 b9d1c0 g9d1c0 b9d1c0 g9q000 basys0;1997 g3.5.0/10800 b10.5.0/14400"),
  ("Europe/Lisbon",
    "-2205 0 3600d 7200d 3600;b3aklr40 c2bufw0 b6zxg0 c66800 bbq580 c71s40 bbq580 c71s40
    bbq580 c73ms0 bbq580 c71s40 bbq580 c1b2g00 b8so00 cst1c0 b8n400 c9q000 b902o0 ca2yo0
    b902o0 ca2yo0 b8n400 cst1c0 b8n400 c9d1c0 b9d1c0 csg2o0 b9d1c0 c902o0 b9q000 ca2yo0
    b8n400 c9d1c0 b9d1c0 c902o0 b9q000 ca2yo0 bb5uo0 c51hc0 bbmio0 c99c00 b9ew00 c88ao0
    d25p80 c5reo0 b3lpg0 c779c0 d1sqk0 c6uao0 b38qs0 c6uao0 d25p80 c6hc00 b38qs0 c6uao0
    d25p80 c6hc00 b38qs0 c8a5c0 b9d1c0 c9d9o0 b9d1c0 c9d1c0 b9d1c0 c9d1c0 b9d1c0 c9d1c0
    b9d1c0 c9d1c0 b9q000 c9d1c0 b9d1c0 c9d1c0 b9d1c0 c9d1c0 b9d1c0 c9d1c0 b9d1c0 c9d1c0
    b9q000 c9d1c0 b9d1c0 c9d1c0 b9d1c0 c9d1c0 b9d1c0 c9d1c0 b9d1c0 c9d1c0 b9d1c0 c9d1c0
    b9q000 c9d1c0 b9d1c0 c9d1c0 b9d1c0 c9d1c0 b9d1c0 c9d1c0 e9d1c0 b57ljs0 c9d1c0 b9d1c0
    c9q2s0 b9d1c0 c9d1c0 b9d1c0 c9q000 b902o0 c9cyk0 b9d1c0 c9d1c0 b9d1c0 c9d1c0 b9d1c0
    c9d1c0 b9q000 c9d1c0 b9d1c0 c9d440 b9d1c0 c9d1c0 b9d1c0 c9d1c0 b9d1c0 c9d1c0 b9d1c0
    c9d1c0 b9q000 c9d1c0 b9d1c0 c9d1c0 e9d1c0 d9d1c0 e9d1c0 d9d1c0 e9d1c0 d9d1c0 e9d1c0;1996
    c3.5.0/3600 b10.5.0/7200"),
  ("Europe/London",
    "-75 0 3600d 7200d 3600;b2d4lb63 czqf9hx b6uao0 c9q000 b8c000 c9o5c0 b9ruo0 c9b6o0 b9ew00
    c9b6o0 bauqo0 c88ao0 b9ew00 c8y800 ba2yo0 ca2yo0 b7k800 casw00 b8a5c0 casw00 b8n400
    ca2yo0 b8n400 c9q000 b902o0 cafxc0 b8n400 ca2yo0 b8n400 c9q000 b902o0 ca2yo0 b8n400
    ca2yo0 b8n400 c9q000 b9d1c0 ca2yo0 b8n400 c9q000 b902o0 ca2yo0 b8n400 ca2yo0 b8n400
    c9q000 b902o0 ca2yo0 bb5uo0 c51hc0 dmbmk0 c51hc0 dc8qo0 c6hc00 dc8qo0 c6uao0 dbvs00
    c8n400 da4tc0 c5clc0 b4bms0 c9q000 b902o0 c8a5c0 d1frw0 c64dc0 b4bms0 c6uao0 bbvs00
    c7x6o0 basw00 c8n400 b9q000 c902o0 b9q000 c9d1c0 b9q000 c902o0 b8n400 c9q000 b902o0
    ca2yo0 b8n400 cafxc0 b8n400 c9q000 b902o0 ca2yo0 b8n400 ca2yo0 b8n400 c9q000 b902o0
    c902o0 bb5uo0 c7k800 bb5uo0 c7x6o0 basw00 c7k800 bb5uo0 c7k800 bb5uo0 c7k800 bb5uo0
    c7k800 bbitc0 c5reo0 ecyfo0 b1kjf00 c779c0 bbitc0 c779c0 bbitc0 c779c0 bbitc0 c779c0
    bbitc0 c7k800 bb5uo0 c7k800 bb5uo0 c7k800 bbitc0 c779c0 bbitc0 c779c0 bbitc0 c7x3w0
    basw00 c7x6o0 basw00 c7x6o0 basw00 c7x6o0 bb5uo0 c7x6o0 basw00 c7x6o0 basw00 c7x6o0
    basw00 c7x6o0 basw00 c7x6o0 bb5uo0 c7k800 bb5uo0 c7x6o0 basw00 c7x6o0 basw00 c7x6o0
    basw00 c7x6o0 basw00 c7x6o0 basw00;1996 c3.5.0/3600 b10.5.0/7200"),
  ("Europe/Madrid",
    "-884 0 3600d 7200d 3600;b34tyv40 c90sik0 b8yas0 c9cyk0 b9eys0 c2d2vw0 b8sqs0 cssyk0
    b8n6s0 c9px80 b905g0 ca2yo0 b902o0 ca2vw0 b8n6s0 c40lh80 b5k2s0 c9cyk0 d1frw0 c7z1c0
    bj1c80 e8a2k0 d13yt80 e685g0 dbrzw0 e8n6s0 da2vw0 e8n6s0 da2vw0 e8n6s0 da2vw0 e8n6s0
    d1clx80 e7x9g0 dcswik0 e905g0 d9px80 e905g0 d8zzw0 e9d440 d9px80 e905g0 d9q5k0 e9d1c0
    d9d1c0 e9d1c0 d9q000 e902o0 d9d1c0 e9d1c0 d9d1c0 e9d1c0 d9d1c0 e9d1c0 d9d1c0 e9q000
    d9d1c0 e9d1c0 d9d1c0 e9d1c0 d9d1c0 e9d1c0 d9d1c0 e9d1c0 d9d1c0 e9d1c0 d9d1c0 e9q000
    d9d1c0 e9d1c0 d9d1c0 e9d1c0 d9d1c0 e9d1c0 d9d1c0 e9d1c0 d9d1c0 e9d1c0;1996 d3.5.0/7200
    e10.5.0/10800"),
  ("Europe/Malta",
    "3484 3600 7200d;b313ecf8 cbsbx8s b64ak0 c9d440 b9et80 c88dg0 baunw0 c7ig40 bb5rw0 c8n6s0
    b9cyk0 caau2s0 b18r9k0 c7k800 b9q000 c9b6o0 b8n400 ca4tc0 b8j940 c9f1k0 bafxc0 c89zs0
    bafxc0 c7kdk0 bb5uo0 c979rs0 b6h980 ccls40 b64dc0 cclpc0 b64dc0 ccyo00 b64dc0 cclpc0
    b64dc0 cc8qo0 b6hc00 cclpc0 b6hc00 c9b6o0 b9d1c0 cahs00 b7m2o0 cb45k0 b7x3w0 casys0
    b7x3w0 casys0 b7x3w0 casys0 b7x3w0 casys0 b7x3w0 ca4w40 b8y580 c9q2s0 b9d1c0 c9d1c0
    b9d1c0 c9d1c0 b9d1c0 c9d1c0 b9q000 c9d1c0 b9d1c0 c9d1c0 b9d1c0 c9d1c0 b9d1c0 c9d1c0
    b9d1c0 c9d1c0 b9d1c0 c9d1c0 b9q000 c9d1c0 b9d1c0 c9d1c0 b9d1c0 c9d1c0 b9d1c0 c9d1c0
    b9d1c0 c9d1c0 b9d1c0;1996 c3.5.0/7200 b10.5.0/10800"),
  ("Europe/Minsk",
    "6616 6600 7200 10800 7200d 3600 14400d 10800d;b2tvf0o8 cn4x6og d379zjc e5r1mk0 fpbf40
    e7k800 f9q000 e9d1c0 d4oac0 gj6dmk0 d9et80 g9d440 d9et80 g9d440 d9et80 g9eys0 d9d6w0
    g9d1c0 d9d1c0 g9d1c0 d9d1c0 g9d1c0 d9d1c0 g9d1c0 d9d1c0 g9d1c0 d9d1c0 hsg2o0 c9d440
    h9d1c0 c9d1c0 h9d1c0 c9d1c0 h9d1c0 c9d1c0 h9d1c0 c9d1c0 h9q000 casw00 h7x6o0 casw00
    h7x6o0 casw00 h7x6o0 cb5uo0 h7k800 cb5uo0 h7k800 cb5uo0 h7x6o0 casw00 h7x6o0 casw00
    h7x6o0 cb5uo0 h7k800 cb5uo0 h7k800 cb5uo0 h7k800 cb5uo0 h7x6o0 casw00 h7x6o0 casw00
    h7x6o0 cb5uo0 d7k800;"),
  ("Europe/Moscow",
    "9017 9079 12679d 16279d 14400d 10800 18000d 7200 10800d 14400;b3cx7utj cipzua b97hc0
    d7yyk0 c5i840 dd9p80 e1jwk7 f2cvk0 es8o00 g1qvw0 e8fpc0 f1jms0 his040 f412as0 eqi27w0
    f9et80 e9d440 f9et80 e9d440 f9et80 e9eys0 f9d6w0 e9d1c0 f9d1c0 e9d1c0 f9d1c0 e9d1c0
    f9d1c0 e9d1c0 f9d1c0 e9d1c0 f9d1c0 e9d1c0 f9q000 i9d1c0 h9d440 f5reo0 e3ljw0 f9d1c0
    e9d1c0 f9d1c0 e9d1c0 f9d1c0 e9d1c0 f9d1c0 e9q000 fasw00 e7x6o0 fasw00 e7x6o0 fasw00
    e7x6o0 fb5uo0 e7k800 fb5uo0 e7k800 fb5uo0 e7x6o0 fasw00 e7x6o0 fasw00 e7x6o0 fb5uo0
    e7k800 fb5uo0 e7k800 fb5uo0 e7k800 fb5uo0 e7x6o0 fasw00 e7x6o0 fasw00 e7x6o0 fb5uo0
    j7k800 f1vbzw0;"),
  ("Europe/Paris",
    "561 0 3600d 7200d 3600;b3a5dlcf c2qx1nl b5luo0 c8y800 ba4tc0 c7vc00 bauqo0 c7idc0 bb7pc0
    c6sg00 bcyo00 c7ayo0 bbko00 c7rmo0 ba2yo0 cbvs00 b6uao0 c902o0 b9q000 c9d1c0 b9d1c0
    ca2yo0 b8n400 c9q000 b902o0 ca2yo0 b902o0 ca2yo0 b8n400 c9q000 b902o0 ca2yo0 b8n400
    c9d1c0 b9d1c0 c902o0 ba2yo0 c9d1c0 b9d1c0 c902o0 b9q000 ca2yo0 b8n400 c9d1c0 b9d1c0
    c902o0 b9q000 ca2yo0 bb5uo0 c51po0 d5p8w0 e18rcc0 d7k800 e9q000 d9d1c0 c9nzs0 d922w0
    e8l9c0 dfxlx80 e9cyk0 d9q5k0 e902o0 d9q000 e9d1c0 d9d1c0 e9d1c0 d9q000 e902o0 d9d1c0
    e9d1c0 d9d1c0 e9d1c0 d9d1c0 e9d1c0 d9d1c0 e9q000 d9d1c0 e9d1c0 d9d1c0 e9d1c0 d9d1c0
    e9d1c0 d9d1c0 e9d1c0 d9d1c0 e9d1c0 d9d1c0 e9q000 d9d1c0 e9d1c0 d9d1c0 e9d1c0 d9d1c0
    e9d1c0 d9d1c0 e9d1c0 d9d1c0 e9d1c0;1996 d3.5.0/7200 e10.5.0/10800"),
  ("Europe/Prague",
    "3464 3600 7200d 0;b3005drs ccttug8 b7ves0 ca4yw0 b7x6o0 casw00 b7x6o0 cb8qdc0 b1cm000
    c7k800 b9q000 c9d1c0 b9d1c0 c9d1c0 b9d1c0 cb5uo0 b7vc00 d2vs40 b4bk00 c2vmk0 b8n400
    ca2yo0 b8n400 c9o5c0 b91xc0 cfe6000 b9d1c0 c9q000 b902o0 c9d1c0 b9d1c0 c9d1c0 b9d1c0
    c9d1c0 b9d1c0 c9d1c0 b9q000 c9d1c0 b9d1c0 c9d1c0 b9d1c0 c9d1c0 b9d1c0 c9d1c0 b9d1c0
    c9d1c0 b9d1c0 c9d1c0 b9q000 c9d1c0 b9d1c0 c9d1c0 b9d1c0 c9d1c0 b9d1c0 c9d1c0 b9d1c0
    c9d1c0 b9d1c0;1996 c3.5.0/7200 b10.5.0/10800"),
  ("Europe/Riga",
    "5794 9394d 7200 10800 7200d 3600 14400d 10800d;b3dupmv2 a7x6o0 ba4tc0 a2mg00 c3myns0
    d7fhlky egz180 fp5v40 e7k800 f9q000 e9d1c0 f9d1c0 dk7s0 gj14ns0 d9et80 g9d440 d9et80
    g9d440 d9et80 g9eys0 d9d6w0 g9d1c0 d9d1c0 g9d1c0 d9d1c0 g9d1c0 d9d1c0 g9d1c0 d9d1c0
    h9d1c0 c9d440 h9d1c0 c9q000 h9d1c0 c9d1c0 h9d1c0 c9d1c0 h9d1c0 c9d1c0 h9d1c0 c9d1c0
    h9d1c0 c9d1c0 h9q000 c9d1c0 h9d440 casw00 h7x6o0 casw00 h7x6o0 cb5uo0;2001 h3.5.0/10800
    c10.5.0/14400"),
  ("Europe/Rome",
    "2996 3600 7200d;b313cho0 cbsds00 b64ak0 c9d440 b9et80 c88dg0 baunw0 c7ig40 bb5rw0 c8n6s0
    b9cyk0 caau2s0 b18r9k0 c7k800 b9q000 c9d1c0 b8l9c0 ca4tc0 b8j940 c9f1k0 bafxc0 c89zs0
    bafxc0 c7kdk0 bb5uo0 c979rs0 b6h980 ccls40 b64dc0 cclpc0 b64dc0 ccyo00 b64dc0 cclpc0
    b64dc0 cc8qo0 b6hc00 cclpc0 b6hc00 cclpc0 b64dc0 cc8qo0 b6hc00 cclpc0 b64dc0 cclpc0
    b64dc0 cc8qo0 b6hc00 cclpc0 b6hc00 cc8qo0 b6hc00 c9q5k0 b902o0 c9d1c0 b9d1c0 c9d1c0
    b9d1c0 c9d1c0 b9d1c0 c9d1c0 b9q000 c9d1c0 b9d1c0 c9d1c0 b9d1c0 c9d1c0 b9d1c0 c9d1c0
    b9d1c0 c9d1c0 b9d1c0 c9d1c0 b9q000 c9d1c0 b9d1c0 c9d1c0 b9d1c0 c9d1c0 b9d1c0 c9d1c0
    b9d1c0 c9d1c0 b9d1c0;1996 c3.5.0/7200 b10.5.0/10800"),
  ("Europe/Samara",
    "12020 10800 14400 18000d 14400d 10800d;b3ehg4g0 c5q5zo0 dqi27w0 c9et80 d9d440 c9et80
    d9d440 c9et80 d9eys0 c9d6w0 d9d1c0 c9d1c0 d9d1c0 c9d1c0 d9d1c0 c9d1c0 d9d1c0 c9d1c0
    e9d1c0 b9d440 e9d1c0 b9q000 f9d1c0 b9d440 c12w00 d89zs0 c9d1c0 d9d1c0 c9d1c0 d9d1c0
    c9d1c0 d9d1c0 c9d1c0 d9q000 casw00 d7x6o0 casw00 d7x6o0 casw00 d7x6o0 cb5uo0 d7k800
    cb5uo0 d7k800 cb5uo0 d7x6o0 casw00 d7x6o0 casw00 d7x6o0 cb5uo0 d7k800 cb5uo0 d7k800
    cb5uo0 d7k800 cb5uo0 d7x6o0 casw00 d7x6o0 casw00 e7x6o0 bb5xg0 c7k800;"),
  ("Europe/Saratov",
    "11058 10800 14400 18000d 14400d;b3ehg4g0 c5q5zo0 dqi27w0 c9et80 d9d440 c9et80 d9d440
    c9et80 d9eys0 c9d6w0 d9d1c0 c9d1c0 d9d1c0 c9d1c0 d9d1c0 c9d1c0 e9d1c0 b9d440 e9d1c0
    b9d1c0 e9d1c0 b9q000 c9d1c0 eipzw0 b9d440 e9d1c0 b9d1c0 e9d1c0 b9d1c0 e9d1c0 b9d1c0
    e9q000 basw00 e7x6o0 basw00 e7x6o0 basw00 e7x6o0 bb5uo0 e7k800 bb5uo0 e7k800 bb5uo0
    e7x6o0 basw00 e7x6o0 basw00 e7x6o0 bb5uo0 e7k800 bb5uo0 e7k800 bb5uo0 e7k800 bb5uo0
    e7x6o0 basw00 e7x6o0 basw00 e7x6o0 bb5uo0 c7k800 b1vbzw0 c13m040;"),
  ("Europe/Simferopol",
    "8184 8160 7200 10800 7200d 3600 14400d 10800d 14400;b2tvezgo cn4x6oo d37a0qo e5xiyk0
    fiu340 e7k800 f9q000 e9d1c0 diac0 gjajmk0 d9et80 g9d440 d9et80 g9d440 d9et80 g9eys0
    d9d6w0 g9d1c0 d9d1c0 g9d1c0 d9d1c0 g9d1c0 d9d1c0 g9d1c0 d9d1c0 g9d1c0 d9d1c0 ceeio0
    hwrpg0 c9d1c0 h9d1c0 c9d1c0 h9d1c0 g1sl00 d7kdk0 g9d1c0 d9d1c0 g9pug0 dat4c0 h7x9g0
    casw00 h7x6o0 casw00 h7x6o0 cb5uo0 h7k800 cb5uo0 h7k800 cb5uo0 h7x6o0 casw00 h7x6o0
    casw00 h7x6o0 cb5uo0 h7k800 cb5uo0 h7k800 cb5uo0 h7k800 cb5uo0 h7x6o0 casw00 h7x6o0
    casw00 h7x6o0 cb5uo0 h7k800 cb5uo0 h7k800 cb5uo0 h7x6o0 casw00 i7x3w0 dasqg0;"),
  ("Europe/Sofia",
    "5596 7016 7200 3600 7200d 10800d;b2tvf1gk c7s708k dp0d6uw e7k800 d9q000 e9d1c0 d9d1c0
    c9d440 fhqq240 c9eys0 f9o2k0 c92040 f9o2k0 c90880 f9pug0 c90b00 f9d1c0 c9d1c0 f9d1c0
    c9q000 f9d1c0 c9d1c0 f9d1c0 c9d1c0 f9d1c0 c9d1c0 f9d1c0 c9d1c0 f9d1c0 c9d1c0 f9d1c0
    c9q000 f9cvs0 c9cyk0 f9d440 c9cyk0 f9d440 c9cyk0 f9d440 c9cyk0 f9d440 c9cyk0 f9q2s0
    cast80;1997 f3.5.0/10800 c10.5.0/14400"),
  ("Europe/Tallinn",
    "5940 3600 7200d 7200 10800 14400d 10800d;b3dqyaj0 c3re10 b7x6o0 aet6g0 dygov0 ea1zgd0
    cktx80 bl94g0 c7k800 b9q000 c9d1c0 e8uac0 fj27mk0 e9et80 f9d440 e9et80 f9d440 e9et80
    f9eys0 e9d6w0 f9d1c0 e9d1c0 f9d1c0 e9d1c0 f9d1c0 e9d1c0 f9d1c0 e9d1c0 g9d1c0 d9d440
    g9d1c0 d9q000 g9d1c0 d9d1c0 g9d1c0 d9d1c0 g9d1c0 d9d1c0 g9d1c0 d9d1c0 g9d1c0 d9d1c0
    g9q000 dasw00 g7x6o0 dasw00 g7x6o0 dasys0 g7x6o0 db5uo0;2002 g3.5.0/10800 d10.5.0/14400"),
  ("Europe/Tirane",
    "4760 3600 7200d;b3bm7crs cdt2gw8 b18pew0 c7k800 bm800 cg7ot40 b7rjw0 cautg0 b7x3w0
    cayis0 b7x3w0 cb5xg0 b7k580 cb42s0 b7lzw0 cb42s0 b7lzw0 cb42s0 b7x3w0 cahus0 b7x3w0
    cb5xg0 b7x3w0 ca4w40 b8jbw0 c9eys0 b9d6w0 c9d1c0 b9d1c0 c9d1c0 b9d1c0 c9d1c0 b9d1c0
    c9d1c0 b9d1c0 c9d1c0 b9d1c0 c9d1c0 b9q000 c9d1c0 b9d1c0 c9d1c0 b9d1c0 c9d1c0 b9d1c0
    c9d1c0 b9d1c0 c9d1c0 b9d1c0;1996 c3.5.0/7200 b10.5.0/10800"),
  ("Europe/Ulyanovsk",
    "11616 10800 14400 18000d 14400d 10800d 7200;b3ehg4g0 c5q5zo0 dqi27w0 c9et80 d9d440
    c9et80 d9d440 c9et80 d9eys0 c9d6w0 d9d1c0 c9d1c0 d9d1c0 c9d1c0 d9d1c0 c9d1c0 d9d1c0
    c9d1c0 e9d1c0 b9d440 e9d1c0 b9q000 f9d1c0 g9d440 b5reo0 e3ljw0 b9d1c0 e9d1c0 b9d1c0
    e9d1c0 b9d1c0 e9d1c0 b9d1c0 e9q000 basw00 e7x6o0 basw00 e7x6o0 basw00 e7x6o0 bb5uo0
    e7k800 bb5uo0 e7k800 bb5uo0 e7x6o0 basw00 e7x6o0 basw00 e7x6o0 bb5uo0 e7k800 bb5uo0
    e7k800 bb5uo0 e7k800 bb5uo0 e7x6o0 basw00 e7x6o0 basw00 e7x6o0 bb5uo0 c7k800 b1vbzw0
    cqnc40;"),
  ("Europe/Vienna",
    "3921 3600 7200d;b30sc6r3 cc1n1gx b7ves0 ca4yw0 b7x6o0 casw00 b7x6o0 ct6000 b8a5c0
    ca7a800 b1cm000 c7k800 b9q000 c9d1c0 b9d1c0 c9d1c0 biio0 civmo0 b91xc0 c9b6o0 b9d1c0
    ca2yo0 b8n400 cgfyyg0 b8zzw0 c9d9o0 b9d1c0 c9d1c0 b9d1c0 c9d1c0 b9d1c0 c9d1c0 b9q000
    c9d1c0 b9d1c0 c9d1c0 b9d1c0 c9d1c0 b9d1c0 c9d1c0 b9d1c0 c9d1c0 b9d1c0 c9d1c0 b9q000
    c9d1c0 b9d1c0 c9d1c0 b9d1c0 c9d1c0 b9d1c0 c9d1c0 b9d1c0 c9d1c0 b9d1c0;1996 c3.5.0/7200
    b10.5.0/10800"),
  ("Europe/Vilnius",
    "6076 5040 5736 3600 7200 10800 7200d 14400d 10800d;b2tvf138 cjb5y4s d1g224o ee75nc
    d4kqk0 facbs40 ggpp40 dpits0 g7k800 d9q000 g9d1c0 f65zo0 hj4vx80 f9et80 h9d440 f9et80
    h9d440 f9et80 h9eys0 f9d6w0 h9d1c0 f9d1c0 h9d1c0 f9d1c0 h9d1c0 f9d1c0 h9d1c0 f9d1c0
    i9d1c0 e9d440 i9d1c0 e9q000 i9d1c0 e9d1c0 i9d1c0 e9d1c0 i9d1c0 e9d1c0 i9d1c0 e9d1c0
    i9d1c0 e9d1c0 i9q000 easw00 i7x6o0 easw00 g7x9g0 dasw00 g7x6o0 eb5uo0;2003 i3.5.0/10800
    e10.5.0/14400"),
  ("Europe/Volgograd",
    "10660 10800 14400 18000d 14400d;b3er0c7w c5glrw4 dqi27w0 c9et80 d9d440 c9et80 d9d440
    c9et80 d9eys0 c9d6w0 d9d1c0 c9d1c0 d9d1c0 c9d1c0 d9d1c0 c9d1c0 e9d1c0 b9d440 e9d1c0
    b9d1c0 e9d1c0 b9q000 c9d1c0 eipzw0 b9d440 e9d1c0 b9d1c0 e9d1c0 b9d1c0 e9d1c0 b9d1c0
    e9q000 basw00 e7x6o0 basw00 e7x6o0 basw00 e7x6o0 bb5uo0 e7k800 bb5uo0 e7k800 bb5uo0
    e7x6o0 basw00 e7x6o0 basw00 e7x6o0 bb5uo0 e7k800 bb5uo0 e7k800 bb5uo0 e7k800 bb5uo0
    e7x6o0 basw00 e7x6o0 basw00 e7x6o0 bb5uo0 c7k800 b1vbzw0 c239c40 b14oqk0;"),
  ("Europe/Warsaw",
    "5040 3600 7200d 7200 10800d;b3cg39w0 cdvyc0 b7ves0 ca4yw0 b7x6o0 casw00 d7x6o0 eaunw0
    d7x6o0 b1evbs0 c9fcwc0 b18cao0 c7k800 b9q000 c9d1c0 b9gnw0 can980 b9kd80 c8fs40 b922w0
    car1c0 b7x6o0 ca2yo0 b8n400 c9q000 b902o0 c4013w0 b64dc0 c9d1c0 b9d1c0 cclpc0 b6hc00
    c9d1c0 b9d1c0 cc8qo0 b6hc00 cc8qo0 b6hc00 cc8qo0 b6hc00 cclpc0 b64dc0 c6j4tc0 b902o0
    c9q000 b9d1c0 c9d1c0 b9d1c0 c9q000 b902o0 c9d1c0 b9d1c0 c9d1c0 b9d1c0 c9d1c0 b9d1c0
    c9d1c0 b9q000 c9d1c0 b9d1c0 c9d1c0 b9d1c0 c9d1c0 b9d1c0 c9d440 b9d1c0 c9d1c0 b9d1c0
    c9d1c0 b9q000 c9d1c0 b9d1c0 c9d1c0 b9d1c0 c9d1c0 b9d1c0 c9d1c0 b9d1c0 c9d1c0 b9d1c0;1996
    c3.5.0/7200 b10.5.0/10800"),
  ("Europe/Zurich",
    "2048 1786 3600 7200d;b2g28yv4 clc05ja dohmxdm c7x6o0 dasw00 c7x6o0 dk2zus0 c9d1c0 d9d1c0
    c9d1c0 d9d1c0 c9d1c0 d9d1c0 c9q000 d9d1c0 c9d1c0 d9d1c0 c9d1c0 d9d1c0 c9d1c0 d9d1c0
    c9d1c0 d9d1c0 c9d1c0 d9d1c0 c9q000 d9d1c0 c9d1c0 d9d1c0 c9d1c0 d9d1c0 c9d1c0 d9d1c0
    c9d1c0 d9d1c0 c9d1c0;1996 d3.5.0/7200 c10.5.0/10800")]

end Playbook.Zone.Table
